import JavaDiagnostics.Source.Span

/-!
Lines and columns, both counted from one. A line ends with a line feed, or with a carriage return that
no line feed follows; the end belongs to its line. The table of line ends is ascending, and a line is
found in it by halving.
-/

set_option autoImplicit false

namespace JavaDiagnostics

structure Position where
  line : Nat
  column : Nat
deriving DecidableEq, Repr

def Position.describe (position : Position) : String :=
  Text.Numeral.decimal position.line ++ ":" ++ Text.Numeral.decimal position.column

structure LineTable where
  ends : List Nat
deriving DecidableEq, Repr

namespace LineTable

def endsFrom (offset : Nat) : List Char → List Nat
  | [] => []
  | c :: rest =>
      let ends := endsFrom (offset + 1) rest
      if c = '\n' ∨ (c = '\r' ∧ rest.head? ≠ some '\n') then offset :: ends else ends

def ofText (text : List Char) : LineTable := ⟨endsFrom 0 text⟩

def isBefore (table : LineTable) (offset index : Nat) : Bool := table.ends[index]?.any (· < offset)

-- How many of `count` ends lie before the offset, where the ends below index `base` all do.
def search (table : LineTable) (offset base count : Nat) : Nat :=
  if count = 0 then base
  else if count = 1 then if table.isBefore offset base then base + 1 else base
  else
    let half := count / 2
    if table.isBefore offset (base + half) then table.search offset (base + half) (count - half)
    else table.search offset base (count - half)
termination_by count
decreasing_by all_goals omega

def lineOf (table : LineTable) (offset : Nat) : Nat := table.search offset 0 table.ends.length + 1

-- The offset of the first character of a line; zero for a line that the table does not have.
def lineStart (table : LineTable) (line : Nat) : Nat :=
  if line ≤ 1 then 0
  else
    match table.ends[line - 2]? with
    | some stop => stop + 1
    | none => 0

def position (table : LineTable) (offset : Nat) : Position :=
  let line := table.lineOf offset
  ⟨line, offset - table.lineStart line + 1⟩

end LineTable

end JavaDiagnostics
