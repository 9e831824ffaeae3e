import JavaDiagnostics.Collection
import JavaDiagnostics.Json.Value

set_option autoImplicit false

namespace JavaDiagnostics

structure Summary where
  total : Nat
  errors : Nat
  warnings : Nat
  infos : Nat
  mandatory : Nat
  dropped : Nat
  /-- In the order of the categories, without those that do not occur. -/
  byCategory : List (Category × Nat)
  /-- The most frequent codes first, of equally frequent ones the lower. -/
  common : List (Code × Nat)
deriving DecidableEq, Repr

namespace Summary

def commonLimit : Nat := 5

def insertCode (code : Code) : List Code → List Code
  | [] => [code]
  | c :: rest =>
      if code.bits < c.bits then code :: c :: rest
      else if code = c then c :: rest
      else c :: insertCode code rest

def codes (diagnostics : List Diagnostic) : List Code :=
  diagnostics.foldr (fun diagnostic kept => insertCode diagnostic.code kept) []

def codeCounts (diagnostics : List Diagnostic) : List (Code × Nat) :=
  (codes diagnostics).map fun code => (code, diagnostics.countP (·.code = code))

def mostCommon (diagnostics : List Diagnostic) : List (Code × Nat) :=
  ((codeCounts diagnostics).mergeSort fun a b => b.2 ≤ a.2).take commonLimit

def categoryCounts (diagnostics : List Diagnostic) : List (Category × Nat) :=
  (Category.all.map fun category => (category, diagnostics.countP (·.category = category))).filter
    fun entry => entry.2 > 0

def isPlainInfo (diagnostic : Diagnostic) : Bool := !diagnostic.isError && diagnostic.isInfo

-- A diagnostic that is neither error nor information counts as a warning.
def isRest (diagnostic : Diagnostic) : Bool := !diagnostic.isError && !diagnostic.isInfo

def ofCollection (collection : Collection) : Summary where
  total := collection.kept.length
  errors := collection.kept.countP (·.isError)
  warnings := collection.kept.countP isRest
  infos := collection.kept.countP isPlainInfo
  mandatory := collection.kept.countP (·.mandatory)
  dropped := collection.dropped
  byCategory := categoryCounts collection.kept
  common := mostCommon collection.kept

def describe (summary : Summary) : String :=
  let number := Text.Numeral.decimal
  let head := number summary.total ++ " problems (" ++ number summary.errors ++ " errors, "
    ++ number summary.warnings ++ " warnings, " ++ number summary.infos ++ " infos)"
  let tail := if summary.dropped > 0 then ", " ++ number summary.dropped ++ " dropped" else ""
  let lines := summary.byCategory.map fun (category, n) => "\n  " ++ category.label ++ ": " ++ number n
  head ++ tail ++ String.join lines

def toJson (summary : Summary) : Json.Value :=
  let ofNat := Json.Value.ofNat
  .object
    [("total_count", ofNat summary.total), ("error_count", ofNat summary.errors),
     ("warning_count", ofNat summary.warnings), ("info_count", ofNat summary.infos),
     ("mandatory_count", ofNat summary.mandatory), ("dropped_count", ofNat summary.dropped),
     ("by_category", .object (summary.byCategory.map fun (category, n) => (category.name, ofNat n))),
     ("common_problems",
      .array (summary.common.map fun (code, n) => .array [ofNat code.bits.toNat, ofNat n]))]

end Summary

end JavaDiagnostics
