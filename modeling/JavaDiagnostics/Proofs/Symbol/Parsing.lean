import JavaDiagnostics.Proofs.Symbol.Unambiguous
import JavaDiagnostics.Proofs.Text.Blank
import JavaDiagnostics.Proofs.Text.Split

set_option autoImplicit false

namespace JavaDiagnostics

namespace JavaType

def parting : List Char := ['.', '$', '[', ']']

def Segment (segment : List Char) : Prop := segment ≠ [] ∧ ∀ c ∈ segment, c ∉ parting ∧ Text.isBlank c = false

-- Over the segment by name: characters are a finite type, and the search would run through all of them.
instance (segment : List Char) : Decidable (Segment segment) :=
  @instDecidableAnd _ _ inferInstance (List.decidableBAll (fun c => c ∉ parting ∧ Text.isBlank c = false) segment)

inductive Joined : List (List Char) → List Char → Prop where
  | last (segment : List Char) : Joined [segment] segment
  | more (segment rest : List Char) (separator : Char) (segments : List (List Char))
      (separates : separator = '.' ∨ separator = '$') (joined : Joined segments rest) :
      Joined (segment :: segments) (segment ++ separator :: rest)

inductive Arrayed (body : List Char) : Nat → List Char → Prop where
  | plain : Arrayed body 0 body
  | array (dimensions : Nat) (text space : List Char) (arrayed : Arrayed body dimensions text)
      (white : ∀ c ∈ space, Text.isBlank c = true) : Arrayed body (dimensions + 1) (text ++ space ++ ['[', ']'])

inductive Sourced (segments : List String) (dimensions : Nat) : String → Prop where
  | padded (before body text after : List Char) (joined : Joined (segments.map String.toList) body)
      (arrayed : Arrayed body dimensions text) (front : ∀ c ∈ before, Text.isBlank c = true)
      (back : ∀ c ∈ after, Text.isBlank c = true) :
      Sourced segments dimensions (String.ofList (before ++ text ++ after))

structure Divided (packages names : List String) : Prop where
  segments : ∀ segment ∈ packages ++ names, Segment segment.toList
  lower : ∀ segment ∈ packages, startsUpper segment.toList = false
  upper : ∃ first rest, names = first :: rest ∧ startsUpper first.toList = true

theorem separates_iff (c : Char) : separates c = true ↔ c = '.' ∨ c = '$' := by
  simp [separates]

theorem Segment.unseparated {segment : List Char} (formed : Segment segment) : ∀ c ∈ segment, separates c = false := by
  intro c member
  have apart := (formed.2 c member).1
  rw [Bool.eq_false_iff, ne_eq, separates_iff]
  rintro (rfl | rfl) <;> exact apart (by decide)

theorem joined_words {segments : List (List Char)} {body : List Char} (joined : Joined segments body)
    (formed : ∀ segment ∈ segments, Segment segment) : Text.words separates body = segments := by
  induction joined with
  | last segment =>
      have own := formed segment (.head _)
      have front := Text.words_front separates segment [] own.1 own.unseparated (by simp)
      rw [List.append_nil] at front
      rw [front, Text.words]
  | more segment rest separator segments parts _ ih =>
      obtain ⟨own, later⟩ := List.forall_mem_cons.mp formed
      have separator := (separates_iff separator).mpr parts
      rw [Text.words_front separates segment _ own.1 own.unseparated (by simpa using separator),
        Text.words_separator separates _ rest separator, ih later]

def Bare (body : List Char) : Prop := body ≠ [] ∧ ∀ c ∈ body, c ≠ ']' ∧ Text.isBlank c = false

theorem Segment.bare {segment : List Char} (formed : Segment segment) : Bare segment := by
  refine ⟨formed.1, fun c member => ⟨?_, (formed.2 c member).2⟩⟩
  rintro rfl
  exact (formed.2 _ member).1 (by decide)

theorem joined_bare {segments : List (List Char)} {body : List Char} (joined : Joined segments body)
    (formed : ∀ segment ∈ segments, Segment segment) : Bare body := by
  induction joined with
  | last segment => exact (formed segment (.head _)).bare
  | more segment rest separator segments parts _ ih =>
      obtain ⟨own, later⟩ := List.forall_mem_cons.mp formed
      refine ⟨by simp, fun c member => ?_⟩
      rcases List.mem_append.mp member with inside | behind
      · exact own.bare.2 c inside
      · rcases List.mem_cons.mp behind with rfl | further
        · rcases parts with rfl | rfl <;> decide
        · exact (ih later).2 c further

theorem joined_holds {segments : List (List Char)} {body : List Char} (joined : Joined segments body) :
    ∀ segment ∈ segments, ∀ c ∈ segment, c ∈ body := by
  induction joined with
  | last segment => simp
  | more segment rest separator segments _ _ ih =>
      intro other member c inside
      rcases List.mem_cons.mp member with rfl | later
      · exact List.mem_append_left _ inside
      · exact List.mem_append_right _ (.tail _ (ih other later c inside))

theorem arrayed_front {body text : List Char} {dimensions : Nat} (arrayed : Arrayed body dimensions text) :
    body <+: text := by
  induction arrayed with
  | plain => exact List.prefix_rfl
  | array dimensions text space _ _ ih => exact (ih.trans (List.prefix_append _ _)).trans (List.prefix_append _ _)

theorem arrayed_first {body text : List Char} {dimensions : Nat} (arrayed : Arrayed body dimensions text)
    (bare : Bare body) : ∀ first ∈ text.head?, Text.isBlank first = false := by
  intro first found
  obtain ⟨c, rest, rfl⟩ := List.exists_cons_of_ne_nil bare.1
  obtain ⟨behind, rfl⟩ := arrayed_front arrayed
  obtain rfl : c = first := by simpa using found
  exact (bare.2 c (.head _)).2

theorem arrayed_last {body text : List Char} {dimensions : Nat} (arrayed : Arrayed body dimensions text)
    (bare : Bare body) : ∀ last ∈ text.getLast?, Text.isBlank last = false := by
  intro last found
  cases arrayed with
  | plain => exact (bare.2 last (List.mem_of_mem_getLast? found)).2
  | array dimensions text space _ _ =>
      obtain rfl : ']' = last := by simpa using found
      decide

theorem arrayed_brackets {body text : List Char} {dimensions : Nat} (arrayed : Arrayed body dimensions text)
    (bare : Bare body) : brackets text.reverse = (dimensions, body.reverse) := by
  induction arrayed with
  | plain =>
      rw [brackets.eq_def]
      split
      next rest closing =>
        have member : ']' ∈ body := List.mem_reverse.mp (closing ▸ .head _)
        exact absurd rfl (bare.2 ']' member).1
      next => rfl
  | array dimensions text space inner white ih =>
      have turned : (text ++ space ++ ['[', ']']).reverse = ']' :: '[' :: (space.reverse ++ text.reverse) := by simp
      have behind : (space.reverse ++ text.reverse).dropWhile Text.isBlank = text.reverse := by
        have solid := arrayed_last inner bare
        rw [← List.head?_reverse] at solid
        exact (Text.trim_start_padded _ _ fun c member => white c (List.mem_reverse.mp member)).trans
          (Text.trim_start_solid _ solid)
      rw [turned, brackets, behind, ih]

theorem divide_parts (packages names : List (List Char)) (first : List Char) (rest : List (List Char))
    (lower : ∀ segment ∈ packages, startsUpper segment = false) (begins : names = first :: rest)
    (upper : startsUpper first = true) : divide (packages ++ names) = (packages, names) := by
  have passed : ∀ segment ∈ packages, (!startsUpper segment) = true := fun segment member => by
    simp [lower segment member]
  subst begins
  obtain ⟨taken, left⟩ := Text.cut_front (!startsUpper ·) packages (first :: rest) passed (by simpa using upper)
  simp only [divide, taken, left]

theorem primitives_lower :
    ∀ name ∈ primitiveNames, name.toList.any (fun c => Text.uppercase.has c.toNat) = false := by
  decide

theorem body_not_primitive (names : List String) (body : List Char) (joined : Joined (names.map String.toList) body)
    (name : String) (member : name ∈ names) (upper : startsUpper name.toList = true) :
    String.ofList body ∉ primitiveNames := by
  intro primitive
  obtain ⟨initial, first, capital⟩ := Option.any_eq_true _ _ |>.mp upper
  have inside := joined_holds joined name.toList (List.mem_map_of_mem member) initial (List.mem_of_mem_head? first)
  have lower := List.any_eq_false.mp (primitives_lower (String.ofList body) primitive)
  exact lower initial (by simpa using inside) capital

theorem parse_sourced {packages names : List String} {dimensions : Nat} {text : String}
    (divided : Divided packages names) (sourced : Sourced (packages ++ names) dimensions text) :
    parse text = ⟨.reference, dotted packages, names, [], dimensions, none, false⟩ := by
  obtain ⟨first, rest, begins, upper⟩ := divided.upper
  cases sourced with
  | padded before body text after joined arrayed front back =>
      have formed : ∀ segment ∈ (packages ++ names).map String.toList, Segment segment :=
        List.forall_mem_map.mpr divided.segments
      have bare := joined_bare joined formed
      have trimmed : Text.trimChars (before ++ text ++ after) = text := by
        rw [Text.trim_chars_padded before text after front back]
        exact Text.trim_chars_solid text (arrayed_first arrayed bare) (arrayed_last arrayed bare)
      have plain : primitiveNames.contains (String.ofList body) = false := by
        rw [List.contains_eq_mem, decide_eq_false_iff_not]
        refine body_not_primitive _ body joined first ?_ upper
        simp [begins]
      have parts : divide (Text.words separates body) = (packages.map String.toList, names.map String.toList) := by
        rw [joined_words joined formed, List.map_append]
        refine divide_parts _ _ first.toList (rest.map String.toList) ?_ (by simp [begins]) upper
        exact List.forall_mem_map.mpr divided.lower
      unfold parse
      simp only [String.toList_ofList, trimmed, arrayed_brackets arrayed bare, List.reverse_reverse, plain, parts,
        Bool.false_eq_true, if_false]
      simp [named, dotted, ← String.toList_inj]

theorem brackets_joined (dimensions : Nat) :
    bracketChars dimensions = (String.join (List.replicate dimensions "[]")).toList := by
  induction dimensions with
  | zero => simp [bracketChars]
  | succ dimensions ih => simp [bracketChars, List.replicate_succ, ih]

theorem qualified_dotted (packages names : List String) (written : ∀ package ∈ packages, package ≠ "")
    (some : names ≠ []) (type : JavaType) (package : type.package = dotted packages) (own : type.names = names) :
    type.qualifiedName = dotted (packages ++ names) := by
  rw [qualifiedName, package, own]
  cases packages with
  | nil => simp [dotted]
  | cons first rest =>
      have visible : dotted (first :: rest) ≠ "" := by
        have given := written first (.head _)
        cases rest with
        | nil => simpa [dotted] using given
        | cons next others => simp [dotted]
      have split : dotted (first :: rest ++ names) = dotted (first :: rest) ++ "." ++ dotted names :=
        String.intercalate_append_of_ne_nil (List.cons_ne_nil first rest) some
      rw [split, if_neg (by simpa using visible)]

theorem dotted_joined (segments : List String) (some : segments ≠ []) :
    Joined (segments.map String.toList) (dotted segments).toList := by
  induction segments with
  | nil => exact absurd rfl some
  | cons segment rest ih =>
      cases rest with
      | nil => simpa [dotted] using Joined.last segment.toList
      | cons next others =>
          have later := ih (List.cons_ne_nil next others)
          simpa [dotted] using Joined.more segment.toList _ '.' _ (.inl rfl) later

theorem arrayed_plainly (body : List Char) (dimensions : Nat) :
    Arrayed body dimensions (body ++ (String.join (List.replicate dimensions "[]")).toList) := by
  induction dimensions with
  | zero => simpa using Arrayed.plain
  | succ dimensions ih =>
      have longer := ih.array dimensions _ [] nofun
      simpa [List.replicate_succ'] using longer

theorem sourced_plainly (segments : List String) (some : segments ≠ []) (dimensions : Nat) :
    Sourced segments dimensions (dotted segments ++ String.join (List.replicate dimensions "[]")) := by
  have plain := Sourced.padded [] _ _ [] (dotted_joined segments some) (arrayed_plainly _ dimensions) nofun nofun
  rwa [List.nil_append, List.append_nil, String.ofList_append, String.ofList_toList, String.ofList_toList] at plain

theorem parse_undoes_writing (packages names : List String) (dimensions : Nat) (text : String)
    (divided : Divided packages names) (sourced : Sourced (packages ++ names) dimensions text) :
    parse text = ⟨.reference, dotted packages, names, [], dimensions, none, false⟩ ∧
      write Style.full (parse text) =
        dotted (packages ++ names) ++ String.join (List.replicate dimensions "[]") ∧
      parse (write Style.full (parse text)) = parse text := by
  have read := parse_sourced divided sourced
  obtain ⟨first, rest, begins, -⟩ := divided.upper
  have some : names ≠ [] := by simp [begins]
  have written : ∀ package ∈ packages, package ≠ "" := by
    rintro _ member rfl
    exact (divided.segments "" (List.mem_append_left _ member)).1 rfl
  have shown : write Style.full (parse text) =
      dotted (packages ++ names) ++ String.join (List.replicate dimensions "[]") := by
    have qualified := qualified_dotted packages names written some (parse text) (by rw [read]) (by rw [read])
    rw [← String.toList_inj]
    change (String.ofList (chars .full (parse text))).toList = _
    rw [String.toList_ofList, full_chars, qualified, read, brackets_joined, String.toList_append]
    rfl
  refine ⟨read, shown, ?_⟩
  rw [shown, read]
  exact parse_sourced divided (sourced_plainly _ (by simp [some]) dimensions)

theorem laid_out_name_read :
    let packages := ["com", "acme"]
    let names := ["Outer", "inner"]
    let text := " com$acme.Outer$inner [] \t[] "
    Divided packages names ∧ Sourced (packages ++ names) 2 text ∧
      parse text = ⟨.reference, "com.acme", names, [], 2, none, false⟩ ∧
      write Style.full (parse text) = "com.acme.Outer.inner[][]" ∧
      parse (write Style.full (parse text)) = parse text := by
  intro packages names text
  have divided : Divided packages names := ⟨by decide, by decide, "Outer", ["inner"], rfl, by decide⟩
  have joined : Joined ((packages ++ names).map String.toList) "com$acme.Outer$inner".toList :=
    .more "com".toList _ '$' _ (.inr rfl) (.more "acme".toList _ '.' _ (.inl rfl)
      (.more "Outer".toList _ '$' _ (.inr rfl) (.last "inner".toList)))
  have space : ∀ c ∈ [' '], Text.isBlank c = true := List.forall_mem_singleton.mpr (by decide)
  have white : ∀ c ∈ [' ', '\t'], Text.isBlank c = true := List.all_eq_true.mp (by decide)
  have arrayed : Arrayed "com$acme.Outer$inner".toList 2 "com$acme.Outer$inner [] \t[]".toList :=
    .array 1 _ [' ', '\t'] (.array 0 _ [' '] .plain space) white
  have sourced : Sourced (packages ++ names) 2 text := .padded [' '] _ _ [' '] joined arrayed space space
  obtain ⟨read, shown, again⟩ := parse_undoes_writing packages names 2 text divided sourced
  exact ⟨divided, sourced, read, shown, again⟩

end JavaType

end JavaDiagnostics
