import JavaDiagnostics.Text.Blank

set_option autoImplicit false

namespace JavaDiagnostics

inductive TagDescription where
  | noTag
  | returnTag
  | allTags
deriving DecidableEq, Repr

namespace TagDescription

def all : List TagDescription := [noTag, returnTag, allTags]

-- Modes that ask for more come later.
def rank : TagDescription → Nat
  | noTag => 0
  | returnTag => 1
  | allTags => 2

def name : TagDescription → String
  | noTag => "no_tag"
  | returnTag => "return_tag"
  | allTags => "all_standard_tags"

def read (text : String) : Option TagDescription := all.find? fun mode => mode.name == Text.trim text

end TagDescription

end JavaDiagnostics
