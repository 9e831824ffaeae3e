import JavaDiagnostics.Command
import JavaDiagnostics.Proofs.Catalog
import JavaDiagnostics.Proofs.Text.Numeral

set_option autoImplicit false

namespace JavaDiagnostics

namespace Command

open Text.Numeral

theorem read_code_named (text : String) (code : Code) (named : Code.ofName? text = some code) :
    readCode text = .ok code := by
  rw [readCode, named]

theorem read_code_marked (text : String) (digits : List Char) (n : Nat) (marked : text.toList = '0' :: 'x' :: digits)
    (value : read 16 (Nat.pow 2 32) digits = some n) : readCode text = .ok ⟨UInt32.ofNat n⟩ := by
  have unnamed := Code.of_name_small text (by rw [marked]; rfl)
  simp only [readCode, unnamed, marked, value]

theorem read_code_unmarked (text : String) (n : Nat) (small : Catalog.isCapital text.toList = false)
    (unmarked : 'x' ∉ text.toList) (value : read 10 (Nat.pow 2 32) text.toList = some n) :
    readCode text = .ok ⟨UInt32.ofNat n⟩ := by
  have unnamed := Code.of_name_small text small
  have plain : ∀ digits, text.toList ≠ '0' :: 'x' :: digits := fun digits marked => unmarked (by simp [marked])
  simp only [readCode, unnamed, value]

theorem digit_not_capital : ∀ d < 10, (digitChar d).isUpper = false := by decide

theorem decimal_small (n : Nat) : Catalog.isCapital (decimalChars n) = false := by
  cases text : decimalChars n with
  | nil => rfl
  | cons first rest =>
      obtain ⟨d, small, rfl⟩ := decimal_digits n first (by simp [text])
      exact digit_not_capital d small

theorem decimal_unmarked (n : Nat) : 'x' ∉ decimalChars n :=
  fun member => absurd (decimal_is_digit n 'x' member) (by decide)

theorem read_code_decimal (bits : UInt32) : readCode (decimal bits.toNat) = .ok ⟨bits⟩ := by
  have text : (decimal bits.toNat).toList = decimalChars bits.toNat := String.toList_ofList
  have value := (read_decimal (Nat.pow 2 32) bits.toNat).trans (if_pos bits.toNat_lt)
  rw [← text] at value
  rw [read_code_unmarked _ bits.toNat (text ▸ decimal_small _) (text ▸ decimal_unmarked _) value,
    UInt32.ofNat_toNat]

theorem read_code_hex (bits : UInt32) : readCode (hexWord bits) = .ok ⟨bits⟩ := by
  rw [read_code_marked (hexWord bits) _ bits.toNat String.toList_ofList (read_hex_word bits), UInt32.ofNat_toNat]

theorem hex_word_form (bits : UInt32) :
    hexWord bits = "0x" ++ String.ofList ((Nat.toDigits 16 bits.toNat).leftpad 8 '0') ∧
      ((Nat.toDigits 16 bits.toNat).leftpad 8 '0').length = 8 := by
  rw [← fixed_padded 7 bits.toNat bits.toNat_lt]
  have marked : hexWord bits = String.ofList (['0', 'x'] ++ fixed 16 8 bits.toNat) := rfl
  exact ⟨marked.trans String.ofList_append, fixed_length 16 8 bits.toNat⟩

theorem listed_forms_read :
    (∀ bits : UInt32,
      let digits := (Nat.toDigits 16 bits.toNat).leftpad 8 '0'
      (hexWord bits = "0x" ++ String.ofList digits ∧ digits.length = 8) ∧
        readCode (hexWord bits) = .ok ⟨bits⟩ ∧ readCode (toString bits.toNat) = .ok ⟨bits⟩) ∧
    ∀ entry ∈ Catalog.entries, readCode entry.code.label = .ok entry.code ∧
      ∀ cell ∈ (entryRow entry).take 2, readCode cell = .ok entry.code := by
  constructor
  · intro bits digits
    refine ⟨hex_word_form bits, read_code_hex bits, ?_⟩
    rw [← decimal_to_string]
    exact read_code_decimal bits
  · intro entry listed
    refine ⟨read_code_named _ _ (Code.of_name_label entry listed), fun cell member => ?_⟩
    have column : cell = hexWord entry.code.bits ∨ cell = entry.name := by simpa [entryRow] using member
    rcases column with rfl | rfl
    · exact read_code_hex entry.code.bits
    · exact read_code_named _ _ (Code.of_name_listed entry listed)

theorem undefined_type_read :
    let entry : Entry := .plain .undefinedType "UndefinedType" "\x7b0\x7d cannot be resolved to a type"
    entry ∈ Catalog.entries ∧ readCode "UndefinedType" = .ok .undefinedType ∧
      readCode "0x01000002" = .ok .undefinedType ∧ readCode "16777218" = .ok .undefinedType := by
  intro entry
  have found : Catalog.find? .undefinedType = some entry := by decide +kernel
  have listed : entry ∈ Catalog.entries := List.mem_of_find?_eq_some found
  obtain ⟨_, hex, decimal⟩ := listed_forms_read.1 Code.undefinedType.bits
  obtain ⟨label, _⟩ := listed_forms_read.2 entry listed
  have named : entry.code.label = "UndefinedType" := by decide +kernel
  have word : hexWord Code.undefinedType.bits = "0x01000002" := by decide +kernel
  have digits : toString Code.undefinedType.bits.toNat = "16777218" := by decide +kernel
  exact ⟨listed, named ▸ label, (congrArg readCode word).symm.trans hex,
    (congrArg readCode digits).symm.trans decimal⟩

end Command

end JavaDiagnostics
