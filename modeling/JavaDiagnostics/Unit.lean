import JavaDiagnostics.Irritant
import JavaDiagnostics.Source.LineTable

/-!
Compilation units: a source text under a file name, with the regions in which warnings are suppressed.
-/

set_option autoImplicit false

namespace JavaDiagnostics

structure Suppression where
  region : Span
  irritants : List Irritant
deriving DecidableEq, Repr

namespace Suppression

-- The irritants that tokens silence, each once. A token that is not understood silences nothing.
def silenced (tokens : List String) : List Irritant :=
  (tokens.filter Irritant.isToken).foldl (fun kept token => kept ++ (Irritant.ofToken token).filter (!kept.contains ·)) []

def ofTokens (region : Span) (tokens : List String) : Suppression := ⟨region, silenced tokens⟩

def covers (suppression : Suppression) (irritant : Irritant) (span : Span) : Bool :=
  suppression.region.encloses span && suppression.irritants.contains irritant

end Suppression

structure SourceUnit where
  file : String
  /-- Where the text is kept. Two texts that are kept at the same time do not share a place. -/
  address : Nat
  text : List Char
  suppressions : List Suppression

-- What a unit is told by, without a look at its text.
structure SourceUnit.Identity where
  file : String
  address : Nat
  length : Nat
deriving DecidableEq, Repr

namespace SourceUnit

def ofText (file : String) (address : Nat) (source : String) : SourceUnit :=
  ⟨file, address, source.toList, []⟩

def identity (unit : SourceUnit) : Identity := ⟨unit.file, unit.address, unit.text.length⟩

def suppress (unit : SourceUnit) (region : Span) (tokens : List String) : SourceUnit :=
  { unit with suppressions := unit.suppressions ++ [.ofTokens region tokens] }

def lines (unit : SourceUnit) : LineTable := .ofText unit.text

def position (unit : SourceUnit) (offset : Nat) : Position := unit.lines.position offset

def slice (unit : SourceUnit) (span : Span) : List Char :=
  (unit.text.drop span.start).take (span.stop + 1 - span.start)

def isSuppressed (unit : SourceUnit) (irritant : Irritant) (span : Span) : Bool :=
  unit.suppressions.any fun suppression => suppression.covers irritant span

end SourceUnit

end JavaDiagnostics
