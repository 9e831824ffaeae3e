import JavaDiagnostics.Proofs.Symbol.Nullness
import JavaDiagnostics.Proofs.Symbol.Spelling

set_option autoImplicit false

namespace JavaDiagnostics

def Style.shown (short : Bool) (names : NullMark → String) (mark : NullMark) : List Char :=
  (if short then Options.lastPart (names mark) else names mark).toList

structure Style.Distinct (short : Bool) (names : NullMark → String) : Prop where
  blankless : ∀ mark, ' ' ∉ Style.shown short names mark
  apart : Style.shown short names .nonNull ≠ Style.shown short names .nullable

theorem distinct_styles (names : NullMark → String) (blankless : ∀ mark, ' ' ∉ (names mark).toList)
    (apart : Options.lastPart (names .nonNull) ≠ Options.lastPart (names .nullable)) (short : Bool) :
    Style.Distinct short names := by
  cases short with
  | false => exact ⟨blankless, fun same => apart (congrArg Options.lastPart (String.toList_injective same))⟩
  | true =>
      refine ⟨fun mark within => ?_, fun same => apart (String.toList_injective same)⟩
      have part : ' ' ∈ ((names mark).toList.reverse.takeWhile (· != '.')).reverse := by
        simpa [Style.shown, Options.lastPart] using within
      exact blankless mark (List.mem_reverse.mp (List.takeWhile_subset _ (List.mem_reverse.mp part)))

theorem Style.Distinct.injective {short : Bool} {names : NullMark → String} (distinct : Style.Distinct short names)
    (a b : NullMark) (same : Style.shown short names a = Style.shown short names b) : a = b := by
  cases a <;> cases b
  · rfl
  · exact absurd same distinct.apart
  · exact absurd same.symm distinct.apart
  · rfl

section

variable {short : Bool} {names : NullMark → String}

-- A blank ends an annotation, and no name begins as an annotation does.
theorem Style.mark_cancel (distinct : Style.Distinct short names) (a b : Option NullMark)
    (simple rest more : List Char) (written : simple ≠ []) (free : '@' ∉ simple)
    (same : Style.mark ⟨short, some names⟩ a ++ (simple ++ rest) =
      Style.mark ⟨short, some names⟩ b ++ (simple ++ more)) :
    a = b ∧ rest = more := by
  obtain ⟨c, others, rfl⟩ := List.exists_cons_of_ne_nil written
  have first : '@' ≠ c := fun equal => free (equal ▸ List.mem_cons_self)
  cases a with
  | none =>
      cases b with
      | none => exact ⟨rfl, List.append_cancel_left same⟩
      | some b => exact absurd (List.cons.inj same).1.symm first
  | some a =>
      cases b with
      | none => exact absurd (List.cons.inj same).1 first
      | some b =>
          have marked (mark : NullMark) :
              Style.mark ⟨short, some names⟩ (some mark) = '@' :: (shown short names mark ++ [' ']) := rfl
          have blankless (mark : NullMark) : ∀ c ∈ shown short names mark, c ∉ [' '] :=
            fun c member blank => distinct.blankless mark (List.mem_singleton.mp blank ▸ member)
          simp only [marked, List.cons_append, List.append_assoc, List.cons.injEq, true_and,
            List.nil_append] at same
          obtain ⟨alike, rests⟩ :=
            Text.cut_before [' '] _ _ _ _ (blankless a) (blankless b) (by simp) (by simp) same
          obtain rfl := distinct.injective a b alike
          exact ⟨rfl, List.append_cancel_left (List.cons.inj (List.cons.inj rests).2).2⟩

namespace JavaType

-- The induction is on the first type and its arguments. The two types have the same shape, so that their texts
-- run side by side up to the first annotation that differs.
mutual

theorem marked_cancel (distinct : Style.Distinct short names) (a b : JavaType) (rest more : List Char)
    (spelled : ∀ part ∈ a.parts, part.NamesSpelled ['@']) (plain : a.unmarked = b.unmarked)
    (same : chars ⟨short, some names⟩ a ++ rest = chars ⟨short, some names⟩ b ++ more) : a = b ∧ rest = more := by
  cases a with
  | mk kind package given arguments dimensions nullness missing =>
      cases b with
      | mk kind' package' given' arguments' dimensions' nullness' missing' =>
          simp only [unmarked, mk.injEq, true_and] at plain
          obtain ⟨rfl, rfl, rfl, plain, rfl, rfl⟩ := plain
          obtain ⟨named, free⟩ := spelled _ (self_part _)
          obtain ⟨front, simple, member, split⟩ := name_chars_simple given named
          obtain ⟨written, free⟩ := free simple member
          simp only [chars, split, List.append_assoc, List.append_cancel_left_eq] at same
          obtain ⟨rfl, behind⟩ :=
            Style.mark_cancel distinct _ _ _ _ _ written (fun held => free '@' held (.head _)) same
          have both : arguments = [] ↔ arguments' = [] := by
            rw [← unmarked_all_nil, plain, unmarked_all_nil]
          obtain ⟨rfl, closed⟩ := further_marked_cancel distinct [','] arguments arguments' _ _
            (fun part within => spelled part (.tail _ within)) plain (angled_further _ _ _ _ _ both behind)
          exact ⟨rfl, List.append_cancel_left (List.cons.inj closed).2⟩

theorem further_marked_cancel (distinct : Style.Distinct short names) (separator : List Char)
    (as bs : List JavaType) (rest more : List Char) (spelled : ∀ part ∈ partsAll as, part.NamesSpelled ['@'])
    (plain : unmarkedAll as = unmarkedAll bs)
    (same : furtherChars ⟨short, some names⟩ separator as ++ rest =
      furtherChars ⟨short, some names⟩ separator bs ++ more) : as = bs ∧ rest = more := by
  cases as with
  | nil =>
      cases bs with
      | nil => exact ⟨rfl, same⟩
      | cons b further => cases plain
  | cons a others =>
      cases bs with
      | nil => cases plain
      | cons b further =>
          simp only [unmarkedAll, List.cons.injEq] at plain
          simp only [furtherChars, List.append_assoc, List.append_cancel_left_eq] at same
          obtain ⟨first, later⟩ := List.forall_mem_append.mp spelled
          obtain ⟨rfl, tails⟩ := marked_cancel distinct a b _ _ first plain.1 same
          obtain ⟨rfl, rests⟩ := further_marked_cancel distinct separator others further _ _ later plain.2 tails
          exact ⟨rfl, rests⟩

end

end JavaType

end

namespace JavaType

def nullnesses (type : JavaType) : List (Option NullMark) := type.parts.map (·.nullness)

mutual

theorem parts_unmarked (type : JavaType) : type.unmarked.parts = type.parts.map unmarked := by
  cases type with
  | mk kind package names arguments dimensions nullness missing =>
      rw [unmarked, parts, parts, parts_all_unmarked arguments]
      rfl

theorem parts_all_unmarked (types : List JavaType) : partsAll (unmarkedAll types) = (partsAll types).map unmarked := by
  cases types with
  | nil => rfl
  | cons type rest =>
      rw [unmarkedAll, partsAll, partsAll, parts_unmarked type, parts_all_unmarked rest, List.map_append]

end

mutual

theorem nullness_ext (a b : JavaType) (plain : a.unmarked = b.unmarked) (known : a.nullnesses = b.nullnesses) :
    a = b := by
  cases a with
  | mk kind package names arguments dimensions nullness missing =>
      cases b with
      | mk kind' package' names' arguments' dimensions' nullness' missing' =>
          simp only [unmarked, mk.injEq, true_and] at plain
          obtain ⟨rfl, rfl, rfl, plain, rfl, rfl⟩ := plain
          obtain ⟨own, within⟩ := List.cons.inj known
          obtain rfl : nullness = nullness' := own
          rw [nullness_all_ext arguments arguments' plain within]

theorem nullness_all_ext (as bs : List JavaType) (plain : unmarkedAll as = unmarkedAll bs)
    (known : (partsAll as).map (·.nullness) = (partsAll bs).map (·.nullness)) : as = bs := by
  cases as with
  | nil =>
      cases bs with
      | nil => rfl
      | cons b further => cases plain
  | cons a others =>
      cases bs with
      | nil => cases plain
      | cons b further =>
          obtain ⟨plain, plainToo⟩ := List.cons.inj plain
          have count : a.nullnesses.length = b.nullnesses.length := by
            have parts := congrArg (fun type => type.parts.length) plain
            simpa [parts_unmarked, nullnesses] using parts
          simp only [partsAll, List.map_append] at known
          obtain ⟨first, later⟩ := List.append_inj known count
          rw [nullness_ext a b plain first, nullness_all_ext others further plainToo later]

end

theorem write_marked_iff (options : Options) (short : Bool) (distinct : Style.Distinct short options.annotationName)
    (first second : JavaType) (spelled : ∀ part ∈ first.parts, part.NamesSpelled ['@'])
    (plain : first.unmarked = second.unmarked) :
    write ⟨short, some options.annotationName⟩ first = write ⟨short, some options.annotationName⟩ second ↔
      first.nullnesses = second.nullnesses := by
  constructor
  · intro same
    have texts := congrArg (· ++ []) (String.ofList_injective same)
    rw [(marked_cancel distinct first second [] [] spelled plain texts).1]
  · intro known
    rw [nullness_ext first second plain known]

theorem clash_of_unmarked (first second : JavaType) (plain : first.unmarked = second.unmarked) :
    first.Clash second := by
  constructor
  · rw [← write_brief_unmarked first, plain, write_brief_unmarked]
  · rw [← write_full_unmarked first, plain, write_full_unmarked]

end JavaType

theorem pairs_told_apart :
    (∀ (α : Type) [Readable α] (options : Options) (first second : α),
      write Style.full first ≠ write Style.full second →
        let pair := NamePair.of options first second
        pair.short.1 ≠ pair.short.2 ∧ pair.full = (write Style.full first, write Style.full second)) ∧
    ∀ (options : Options) (first second : JavaType), first.unmarked = second.unmarked →
      (∀ part ∈ first.parts, part.NamesSpelled ['@', ' ', '<', '>', ',', '.']) →
      (∀ mark, ' ' ∉ (options.annotationName mark).toList) →
      options.simpleAnnotationName .nonNull ≠ options.simpleAnnotationName .nullable →
        let pair := NamePair.of options first second
        (pair.short.1 ≠ pair.short.2 ↔ first.nullnesses ≠ second.nullnesses) ∧
          (pair.full.1 ≠ pair.full.2 ↔ first.nullnesses ≠ second.nullnesses) := by
  constructor
  · intro α _ options first second differ
    by_cases brief : write Style.brief first = write Style.brief second
    · simp [NamePair.of, brief, differ]
    · simp [NamePair.of, brief]
  · intro options first second plain spelled blankless apart
    have distinct := distinct_styles options.annotationName blankless apart
    have free : ∀ part ∈ first.parts, part.NamesSpelled ['@'] :=
      fun part within => (spelled part within).mono (by decide)
    rw [NamePair.of_clash options first second (first.clash_of_unmarked second plain)]
    exact ⟨not_congr (JavaType.write_marked_iff options true (distinct true) first second free plain),
      not_congr (JavaType.write_marked_iff options false (distinct false) first second free plain)⟩

-- Types of one simple name, methods with such parameters, and nullness two levels deep.
theorem pairs_with_one_short_name :
    let item (package : String) (nullness : Option NullMark) : JavaType :=
      { JavaType.named .reference package ["Item"] with nullness }
    let list (argument : JavaType) : JavaType :=
      { JavaType.named .reference "util" ["List"] with arguments := [argument] }
    let add (argument : JavaType) : Method := ⟨.primitive "void", "add", [argument], .primitive "void", false, false⟩
    let apart (names : NamePair) := names.short.1 ≠ names.short.2
    write Style.full (item "acme" none) ≠ write Style.full (item "shop" none) ∧
      apart (.of .usual (item "acme" none) (item "shop" none)) ∧
      write Style.full (add (item "acme" none)) ≠ write Style.full (add (item "shop" none)) ∧
      apart (.of .usual (add (item "acme" none)) (add (item "shop" none))) ∧
      apart (.of .usual (list (list (item "acme" (some .nullable)))) (list (list (item "acme" none)))) := by
  intro item list add apart
  obtain ⟨differ, known⟩ := pairs_told_apart
  have types : write Style.full (item "acme" none) ≠ write Style.full (item "shop" none) := by decide
  have methods : write Style.full (add (item "acme" none)) ≠ write Style.full (add (item "shop" none)) := by decide
  have deep := known .usual (list (list (item "acme" (some .nullable)))) (list (list (item "acme" none))) rfl
    (by decide) (fun mark => by cases mark <;> decide) (by decide)
  have marked : (list (list (item "acme" (some .nullable)))).nullnesses ≠
      (list (list (item "acme" none))).nullnesses := by
    decide
  exact ⟨types, (differ _ .usual _ _ types).1, methods, (differ _ .usual _ _ methods).1, deep.1.mpr marked⟩

end JavaDiagnostics
