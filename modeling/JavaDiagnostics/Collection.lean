import JavaDiagnostics.Diagnostic

/-!
Collections of diagnostics. A collection keeps mandatory diagnostics always, and optional ones while
fewer than its limit are kept for their unit; it counts those it drops.
-/

set_option autoImplicit false

namespace JavaDiagnostics

structure Collection where
  limit : Nat
  kept : List Diagnostic
  /-- How many are kept for each unit. -/
  counts : List (String × Nat)
  dropped : Nat

namespace Collection

def usualLimit : Nat := 100

def empty (limit : Nat) : Collection := ⟨limit, [], [], 0⟩

-- The unit that a diagnostic counts for; without a file the unnamed one.
def unitOf (diagnostic : Diagnostic) : String := diagnostic.file.getD ""

def countIn (unit : String) : List (String × Nat) → Nat
  | [] => 0
  | (name, count) :: rest => if name = unit then count else countIn unit rest

def count (collection : Collection) (unit : String) : Nat := countIn unit collection.counts

def raise (unit : String) : List (String × Nat) → List (String × Nat)
  | [] => [(unit, 1)]
  | (name, count) :: rest =>
      if name = unit then (name, count + 1) :: rest else (name, count) :: raise unit rest

def add (collection : Collection) (diagnostic : Diagnostic) (mandatory : Bool) : Collection :=
  let unit := unitOf diagnostic
  if !mandatory && decide (collection.limit ≤ collection.count unit) then
    { collection with dropped := collection.dropped + 1 }
  else
    { collection with
        kept := collection.kept ++ [diagnostic]
        counts := raise unit collection.counts }

def clear (collection : Collection) : Collection := empty collection.limit

def errors (collection : Collection) : List Diagnostic := collection.kept.filter (·.isError)
def warnings (collection : Collection) : List Diagnostic := collection.kept.filter (·.isWarning)
def infos (collection : Collection) : List Diagnostic := collection.kept.filter (·.isInfo)

def hasErrors (collection : Collection) : Bool := collection.kept.any (·.isError)

def ofFile (collection : Collection) (file : String) : List Diagnostic :=
  collection.kept.filter fun diagnostic => diagnostic.file = some file

def groups (collection : Collection) : List (Category × List Diagnostic) :=
  Category.all.filterMap fun category =>
    match collection.kept.filter fun diagnostic => diagnostic.category = category with
    | [] => none
    | members => some (category, members)

def precedes (a b : Diagnostic) : Bool :=
  let byPlace := a.span.start < b.span.start ∨ (a.span.start = b.span.start ∧ a.span.stop ≤ b.span.stop)
  match a.file, b.file with
  | none, none => byPlace
  | none, some _ => true
  | some _, none => false
  | some f, some g => f < g ∨ (f = g ∧ byPlace)

-- Those with equal keys stay in their order.
def sort (collection : Collection) : Collection :=
  { collection with kept := collection.kept.mergeSort precedes }

end Collection

end JavaDiagnostics
