import JavaDiagnostics.Proofs.Symbol.Spelling
import Mathlib.Data.List.Forall2

set_option autoImplicit false

namespace JavaDiagnostics

namespace JavaType

def reserved : List Char := ['.', '<', '>', ',', '[', ']', ' ']

def WellFormed (type : JavaType) : Prop :=
  ∀ part ∈ type.parts, part.NamesSpelled reserved ∧ part.PackageSpelled reserved

instance (type : JavaType) : Decidable type.WellFormed := inferInstanceAs (Decidable (∀ part ∈ type.parts, _))

-- The same qualified name and dimensions, and the same again of each type argument.
inductive Alike : JavaType → JavaType → Prop where
  | mk (a b : JavaType) (named : a.qualifiedName = b.qualifiedName) (dimensions : a.dimensions = b.dimensions)
      (arguments : List.Forall₂ Alike a.arguments b.arguments) : Alike a b

theorem WellFormed.argument {type argument : JavaType} (formed : type.WellFormed)
    (given : argument ∈ type.arguments) : argument.WellFormed :=
  fun part within => formed part (type.argument_parts argument part given within)

theorem dotted_chars (names : List String) : nameChars [] names = (dotted names).toList := by
  induction names with
  | nil => rfl
  | cons name rest ih =>
      cases rest with
      | nil => simp [nameChars, dotted]
      | cons next others =>
          rw [nameChars, ih]
          · simp [dotted]
          · exact List.cons_ne_nil next others

theorem full_chars (type : JavaType) :
    chars .full type = type.qualifiedName.toList ++
      (angled (argumentChars .full type.arguments) ++ bracketChars type.dimensions) := by
  cases type with
  | mk kind package names arguments dimensions nullness missing =>
      have unmarked : Style.full.mark nullness = [] := rfl
      rw [chars, unmarked, dotted_chars, List.append_assoc]
      congr 1
      by_cases none : package = ""
      · simp [packageChars, qualifiedName, Style.full, none]
      · simp [packageChars, qualifiedName, Style.full, none]

def behindName : List Char := ['<', '[', ',', '>']

theorem spelled_free {name : List Char} (spelled : Spelled reserved name) : ∀ c ∈ name, c ∉ behindName :=
  have within : behindName ⊆ reserved := by decide
  fun c member around => spelled.2 c member (within around)

theorem dotted_free (names : List String) (spelled : ∀ name ∈ names, Spelled reserved name.toList) :
    ∀ c ∈ (dotted names).toList, c ∉ behindName := by
  rw [← dotted_chars]
  induction names with
  | nil => exact fun _ member => absurd member List.not_mem_nil
  | cons name rest ih =>
      have here := spelled_free (spelled name (.head _))
      cases rest with
      | nil => simpa [nameChars] using here
      | cons next others =>
          have later := ih fun other member => spelled other (.tail _ member)
          have dot : '.' ∉ behindName := by decide
          rw [nameChars]
          · intro c member
            rcases List.mem_append.mp member with own | behind
            · exact here c own
            · rcases List.mem_cons.mp behind with rfl | further
              · exact dot
              · exact later c further
          · exact List.cons_ne_nil next others

theorem qualified_free (type : JavaType) (formed : type.WellFormed) :
    ∀ c ∈ type.qualifiedName.toList, c ∉ behindName := by
  obtain ⟨⟨_, names⟩, package⟩ := formed type type.self_part
  have named := dotted_free type.names names
  unfold qualifiedName
  split
  · exact named
  next some =>
    have segments := package.resolve_left fun none => some (by simp [none])
    have dot : '.' ∉ behindName := by decide
    intro c member
    simp only [String.toList_append, List.mem_append] at member
    rcases member with (inside | between) | further
    · rcases Text.fields_cover '.' type.package.toList c inside with rfl | ⟨segment, given, within⟩
      · exact dot
      · exact spelled_free (segments segment given) c within
    · obtain rfl : c = '.' := by simpa using between
      exact dot
    · exact named c further

def behindType : List Char := [',', '>']

theorem brackets_begin (dimensions : Nat) (rest : List Char) (closes : Text.Begins behindType rest) :
    Text.Begins ['[', ',', '>'] (bracketChars dimensions ++ rest) := by
  cases dimensions with
  | zero => exact closes.mono (by decide)
  | succ dimensions => simp [bracketChars]

theorem angled_begin (types : List JavaType) (rest : List Char) (closes : Text.Begins ['[', ',', '>'] rest) :
    Text.Begins behindName (angled (argumentChars .full types) ++ rest) := by
  cases types with
  | nil => exact closes.mono (by decide)
  | cons type others => simp [angled_cons, behindName]

theorem further_begin (separator : List Char) (types : List JavaType) (rest : List Char)
    (ends : Text.Begins ['>'] rest) :
    Text.Begins behindType (furtherChars .full (',' :: separator) types ++ rest) := by
  cases types with
  | nil => exact ends.mono (by decide)
  | cons type others => simp [furtherChars, behindType]

theorem brackets_cancel (m n : Nat) (rest more : List Char) (closes : Text.Begins behindType rest)
    (closesMore : Text.Begins behindType more) (same : bracketChars m ++ rest = bracketChars n ++ more) :
    m = n ∧ rest = more := by
  induction m generalizing n with
  | zero =>
      cases n with
      | zero => exact ⟨rfl, same⟩
      | succ n => exact (closes.refute same (by decide)).elim
  | succ m ih =>
      cases n with
      | zero => exact (closesMore.refute same.symm (by decide)).elim
      | succ n =>
          obtain ⟨rfl, rests⟩ := ih n (List.cons.inj (List.cons.inj same).2).2
          exact ⟨rfl, rests⟩

theorem arguments_both (as bs : List JavaType) (rest more : List Char)
    (closes : Text.Begins ['[', ',', '>'] rest) (closesMore : Text.Begins ['[', ',', '>'] more)
    (same : angled (argumentChars .full as) ++ rest = angled (argumentChars .full bs) ++ more) :
    as = [] ↔ bs = [] := by
  cases as with
  | nil =>
      cases bs with
      | nil => rfl
      | cons b further =>
          rw [angled_cons] at same
          exact (closes.refute same (by decide)).elim
  | cons a others =>
      cases bs with
      | nil =>
          rw [angled_cons] at same
          exact (closesMore.refute same.symm (by decide)).elim
      | cons b further => simp

-- The induction is on the first type and its arguments; what follows the two names tells where each ends.
mutual

theorem chars_cancel (a b : JavaType) (rest more : List Char) (formed : a.WellFormed) (formedToo : b.WellFormed)
    (closes : Text.Begins behindType rest) (closesMore : Text.Begins behindType more)
    (same : chars .full a ++ rest = chars .full b ++ more) : a.Alike b ∧ rest = more := by
  cases a with
  | mk kind package names arguments dimensions nullness missing =>
      simp only [full_chars, List.append_assoc] at same
      obtain ⟨named, behind⟩ := Text.cut_before behindName _ _ _ _ (qualified_free _ formed)
        (qualified_free b formedToo) (angled_begin _ _ (brackets_begin _ rest closes))
        (angled_begin _ _ (brackets_begin _ more closesMore)) same
      have both := arguments_both _ _ _ _ (brackets_begin _ rest closes) (brackets_begin _ more closesMore) behind
      obtain ⟨alike, closed⟩ := further_cancel [] arguments b.arguments _ _
        (fun _ given => formed.argument given) (fun _ given => formedToo.argument given) (by simp) (by simp)
        (angled_further .full _ _ _ _ both behind)
      obtain ⟨counted, rests⟩ := brackets_cancel _ _ rest more closes closesMore (List.cons.inj closed).2
      exact ⟨.mk _ _ (String.toList_injective named) counted alike, rests⟩

theorem further_cancel (blanks : List Char) (as bs : List JavaType) (rest more : List Char)
    (formed : ∀ a ∈ as, a.WellFormed) (formedToo : ∀ b ∈ bs, b.WellFormed)
    (ended : Text.Begins ['>'] rest) (endedMore : Text.Begins ['>'] more)
    (same : furtherChars .full (',' :: blanks) as ++ rest = furtherChars .full (',' :: blanks) bs ++ more) :
    List.Forall₂ Alike as bs ∧ rest = more := by
  cases as with
  | nil =>
      cases bs with
      | nil => exact ⟨.nil, same⟩
      | cons b further => exact (ended.refute same (by decide)).elim
  | cons a others =>
      cases bs with
      | nil => exact (endedMore.refute same.symm (by decide)).elim
      | cons b further =>
          simp only [furtherChars, List.append_assoc, List.append_cancel_left_eq] at same
          obtain ⟨first, tails⟩ := chars_cancel a b _ _ (formed a (.head _)) (formedToo b (.head _))
            (further_begin blanks others rest ended) (further_begin blanks further more endedMore) same
          obtain ⟨later, rests⟩ := further_cancel blanks others further _ _
            (fun a member => formed a (.tail _ member)) (fun b member => formedToo b (.tail _ member))
            ended endedMore tails
          exact ⟨.cons first later, rests⟩

end

theorem parameter_chars_fixed (style : Style) (types : List JavaType) :
    parameterChars style false types = argumentChars style types := by
  induction types with
  | nil => rfl
  | cons type rest ih =>
      cases rest with
      | nil => rfl
      | cons next others => exact congrArg (chars style type :: ·) ih

theorem full_names_unambiguous :
    (∀ a b : JavaType, a.WellFormed → b.WellFormed → write Style.full a = write Style.full b → a.Alike b) ∧
    ∀ as bs : List JavaType, (∀ a ∈ as, a.WellFormed) → (∀ b ∈ bs, b.WellFormed) →
      typeList .full false as = typeList .full false bs → List.Forall₂ Alike as bs := by
  constructor
  · intro a b formed formedToo same
    have texts : chars .full a ++ [] = chars .full b ++ [] := by
      simpa using String.ofList_injective same
    exact (chars_cancel a b [] [] formed formedToo (.nil _) (.nil _) texts).1
  · intro as bs formed formedToo same
    have texts := String.ofList_injective same
    rw [parameter_chars_fixed, parameter_chars_fixed] at texts
    cases as with
    | nil =>
        cases bs with
        | nil => exact .nil
        | cons b further =>
            rw [joined_further] at texts
            exact absurd (List.append_eq_nil_iff.mp texts.symm).1 (chars_some .full b (formedToo b (.head _) b b.self_part).1)
    | cons a others =>
        cases bs with
        | nil =>
            rw [joined_further] at texts
            exact absurd (List.append_eq_nil_iff.mp texts).1 (chars_some .full a (formed a (.head _) a a.self_part).1)
        | cons b further =>
            rw [joined_further, joined_further] at texts
            have separated := congrArg ([',', ' '] ++ ·) texts
            refine (further_cancel [' '] (a :: others) (b :: further) [] [] formed formedToo (.nil _) (.nil _) ?_).1
            rw [List.append_nil, List.append_nil]
            exact separated

-- The name does not tell whether a segment is a package or an enclosing type.
theorem enclosing_names_alike :
    let entry (package : String) (names : List String) : JavaType :=
      { JavaType.named .reference package names with
          arguments := [{ JavaType.named .reference "lang" ["Long"] with dimensions := 1 }, .wildcard] }
    let nested := entry "util" ["Map", "Entry"]
    let packaged := entry "util.Map" ["Entry"]
    let pairs (type : JavaType) := [.primitive "int", type]
    nested.WellFormed ∧ packaged.WellFormed ∧ write Style.full nested = write Style.full packaged ∧
      nested.Alike packaged ∧ typeList .full false (pairs nested) = typeList .full false (pairs packaged) ∧
      List.Forall₂ Alike (pairs nested) (pairs packaged) := by
  intro entry nested packaged pairs
  have number : (JavaType.primitive "int").WellFormed := by decide
  have formed : nested.WellFormed := by decide
  have formedToo : packaged.WellFormed := by decide
  have chars : chars .full nested = chars .full packaged := by decide
  have same : write Style.full nested = write Style.full packaged := congrArg String.ofList chars
  have lists : typeList .full false (pairs nested) = typeList .full false (pairs packaged) := by
    simp only [typeList, pairs, parameter_chars_fixed, argumentChars, chars]
  obtain ⟨types, typeLists⟩ := full_names_unambiguous
  refine ⟨formed, formedToo, same, types nested packaged formed formedToo same, lists, ?_⟩
  exact typeLists _ _ (by simp [pairs, number, formed]) (by simp [pairs, number, formedToo]) lists

end JavaType

end JavaDiagnostics
