import JavaDiagnostics.Text.Numeral

/-!
Stretches of a source text, by the offsets of their first and last characters. A stretch that stops
before it starts is empty.
-/

set_option autoImplicit false

namespace JavaDiagnostics

structure Span where
  start : Nat
  stop : Nat
deriving DecidableEq, Repr

namespace Span

-- The given number of characters from an offset on. The empty stretch at offset zero has no place
-- before it and holds one character instead.
def ofLength (start length : Nat) : Span := ⟨start, start + length - 1⟩

def length (span : Span) : Nat := if span.stop < span.start then 0 else span.stop - span.start + 1

def isEmpty (span : Span) : Bool := span.length = 0

def contains (span : Span) (offset : Nat) : Bool := span.start ≤ offset && offset ≤ span.stop

def encloses (span inner : Span) : Bool := span.start ≤ inner.start && inner.stop ≤ span.stop

def merge (a b : Span) : Span := ⟨min a.start b.start, max a.stop b.stop⟩

def describe (span : Span) : String :=
  Text.Numeral.decimal span.start ++ "..=" ++ Text.Numeral.decimal span.stop

end Span

end JavaDiagnostics
