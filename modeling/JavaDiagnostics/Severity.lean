import JavaDiagnostics.Severity.Level

/-!
Severities: a set of bits made of a base level and modifiers. No base bit at all means a warning.
-/

set_option autoImplicit false

namespace JavaDiagnostics

structure Severity where
  bits : UInt32
deriving DecidableEq, Repr

namespace Severity

def warning : Severity := ⟨0⟩
def error : Severity := ⟨1⟩
def abortCompilation : Severity := ⟨2⟩
def abortUnit : Severity := ⟨4⟩
def abortType : Severity := ⟨8⟩
def abortMethod : Severity := ⟨16⟩
def abort : Severity := ⟨30⟩
def secondary : Severity := ⟨64⟩
def fatal : Severity := ⟨128⟩
def ignore : Severity := ⟨256⟩
def optional : Severity := ⟨512⟩
def internalError : Severity := ⟨1024⟩
def info : Severity := ⟨2048⟩

instance : OrOp Severity := ⟨fun a b => ⟨a.bits ||| b.bits⟩⟩
instance : AndOp Severity := ⟨fun a b => ⟨a.bits &&& b.bits⟩⟩

def contains (s part : Severity) : Bool := s.bits &&& part.bits == part.bits

def meets (s part : Severity) : Bool := s.bits &&& part.bits != 0

def isIgnored (s : Severity) : Bool := s.meets ignore
def isError (s : Severity) : Bool := s.meets error
def isFatal (s : Severity) : Bool := s.meets fatal
def isInfo (s : Severity) : Bool := s.meets info
def isWarning (s : Severity) : Bool := !s.meets (error ||| info ||| ignore)
def isOptional (s : Severity) : Bool := s.meets optional

-- An error that no setting may take away.
def isMandatory (s : Severity) : Bool := s.isError && !s.isOptional

def abortPart (s : Severity) : Severity := s &&& abort

-- Of several base bits, ignore outranks error and error outranks info.
def level (s : Severity) : Level :=
  if s.isIgnored then .ignore
  else if s.isError then .error
  else if s.isInfo then .info
  else .warning

def modifiers : List (Severity × String) :=
  [(fatal, "fatal"), (optional, "optional"), (secondary, "secondary"),
   (abortCompilation, "abort-compilation"), (abortUnit, "abort-unit"),
   (abortType, "abort-type"), (abortMethod, "abort-method")]

def describe (s : Severity) : String :=
  if s = internalError then "internal error"
  else
    let named := modifiers.filter fun (bit, _) => s.meets bit
    "|".intercalate (s.level.name :: named.map Prod.snd)

end Severity

end JavaDiagnostics
