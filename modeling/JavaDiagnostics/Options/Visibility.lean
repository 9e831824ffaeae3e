import JavaDiagnostics.Text.Blank

/-!
The visibility of declarations. A threshold admits every visibility at least as wide as itself.
-/

set_option autoImplicit false

namespace JavaDiagnostics

inductive Visibility where
  | publicMember
  | protectedMember
  | packageMember
  | privateMember
deriving DecidableEq, Repr

namespace Visibility

def all : List Visibility := [publicMember, protectedMember, packageMember, privateMember]

-- Wider visibilities come first.
def rank : Visibility → Nat
  | publicMember => 0
  | protectedMember => 1
  | packageMember => 2
  | privateMember => 3

def name : Visibility → String
  | publicMember => "public"
  | protectedMember => "protected"
  | packageMember => "default"
  | privateMember => "private"

def read (text : String) : Option Visibility := all.find? fun visibility => visibility.name == Text.trim text

def admits (threshold visibility : Visibility) : Bool := visibility.rank ≤ threshold.rank

def admitted? (threshold visibility : Visibility) : Option String :=
  if threshold.admits visibility then some visibility.name else none

end Visibility

end JavaDiagnostics
