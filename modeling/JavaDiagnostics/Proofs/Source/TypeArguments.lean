import JavaDiagnostics.Proofs.Source.Locality
import JavaDiagnostics.Proofs.Source.Reading

/-!
Type arguments are closed at the first `>` that evens out the angle brackets before it. This is the bracket that
closes the list of arguments, or else one that no `<` stands before.
-/

set_option autoImplicit false

namespace JavaDiagnostics

namespace Brackets

theorem closing_less (depth : Nat) (token : Token) (less : token.kind = .less) :
    closing depth token = .goOn (depth + 1) := by
  simp [closing, less]

theorem closing_greater (depth : Nat) (token : Token) (greater : token.kind = .greater) :
    closing depth token = if depth ≤ 1 then .found (some token.span.stop) else .goOn (depth - 1) := by
  simp [closing, greater]

theorem closing_brace (depth : Nat) (token : Token) (brace : token.kind = .openBrace) :
    closing depth token = .found none := by
  simp [closing, brace]

theorem closing_other (depth : Nat) (token : Token) (less : token.kind ≠ .less)
    (greater : token.kind ≠ .greater) (brace : token.kind ≠ .openBrace) :
    closing depth token = .goOn depth := by
  unfold closing
  split <;> first | rfl | contradiction

end Brackets

namespace Token

def count (kind : TokenKind) (tokens : List Token) : Nat := tokens.countP (·.kind = kind)

def Opened (tokens : List Token) : Prop := ∃ token ∈ tokens, token.kind = .less

structure Searched (tokens : List Token) : Prop where
  braceless : ∀ token ∈ tokens, token.kind ≠ .openBrace
  behind : ∀ earlier token, earlier ++ [token] <+: tokens → token.kind = .greater → Opened earlier
  nested : ∀ front, front <+: tokens → Opened front → count .greater front < count .less front

structure ClosesArguments (front : List Token) (last : Token) : Prop where
  braceless : ∀ token ∈ front, token.kind ≠ .openBrace
  opened : Opened front
  closer : last.kind = .greater
  even : count .less (front ++ [last]) = count .greater (front ++ [last])
  behind : ∀ earlier token, earlier ++ [token] <+: front ++ [last] → token.kind = .greater → Opened earlier
  nested : ∀ shorter, shorter <+: front → Opened shorter → count .greater shorter < count .less shorter

structure Stray (front : List Token) (last : Token) : Prop where
  braceless : ∀ token ∈ front, token.kind ≠ .openBrace
  unopened : ∀ token ∈ front, token.kind ≠ .less
  unclosed : ∀ token ∈ front, token.kind ≠ .greater
  closer : last.kind = .greater

def Ends (front : List Token) (last : Token) : Prop := ClosesArguments front last ∨ Stray front last

def depth (tokens : List Token) : Nat := count .less tokens - count .greater tokens

theorem count_concat (kind : TokenKind) (tokens : List Token) (token : Token) :
    count kind (tokens ++ [token]) = count kind tokens + if token.kind = kind then 1 else 0 := by
  simp [count, List.countP_append, List.countP_singleton]

theorem counts_less (tokens : List Token) (token : Token) (less : token.kind = .less) :
    count .less (tokens ++ [token]) = count .less tokens + 1 ∧
      count .greater (tokens ++ [token]) = count .greater tokens := by
  simp [count_concat, less]

theorem counts_greater (tokens : List Token) (token : Token) (greater : token.kind = .greater) :
    count .less (tokens ++ [token]) = count .less tokens ∧
      count .greater (tokens ++ [token]) = count .greater tokens + 1 := by
  simp [count_concat, greater]

theorem counts_other (tokens : List Token) (token : Token) (less : token.kind ≠ .less)
    (greater : token.kind ≠ .greater) :
    count .less (tokens ++ [token]) = count .less tokens ∧
      count .greater (tokens ++ [token]) = count .greater tokens := by
  simp [count_concat, less, greater]

theorem count_zero (kind : TokenKind) (tokens : List Token) (absent : ∀ token ∈ tokens, token.kind ≠ kind) :
    count kind tokens = 0 := by
  rw [count, List.countP_eq_zero]
  intro token member
  simpa using absent token member

theorem opened_concat (tokens : List Token) (token : Token) :
    Opened (tokens ++ [token]) ↔ Opened tokens ∨ token.kind = .less := by
  simp only [Opened, List.mem_append, List.mem_singleton, or_and_right, exists_or, exists_eq_left]

theorem Opened.mono {front tokens : List Token} (opened : Opened front) (part : front <+: tokens) :
    Opened tokens := by
  obtain ⟨token, member, less⟩ := opened
  exact ⟨token, part.subset member, less⟩

theorem last_member {front tokens : List Token} {last : Token} (part : front ++ [last] <+: tokens) :
    last ∈ tokens := part.subset (List.mem_append_right _ (List.mem_singleton_self last))

theorem Ends.closer {front : List Token} {last : Token} (ends : Ends front last) : last.kind = .greater :=
  ends.elim ClosesArguments.closer Stray.closer

theorem searched_nil : Searched [] := by
  refine ⟨by simp, ?_, ?_⟩
  · intro earlier token part
    simp at part
  · rintro front part ⟨token, member, _⟩
    rw [List.prefix_nil.mp part] at member
    cases member

theorem Searched.front {tokens : List Token} {token : Token} (searched : Searched (tokens ++ [token])) :
    Searched tokens where
  braceless := fun other member => searched.braceless other (List.mem_append_left _ member)
  behind := fun earlier other part => searched.behind earlier other (part.trans (List.prefix_append _ _))
  nested := fun front part => searched.nested front (part.trans (List.prefix_append _ _))

theorem Searched.unopened {tokens : List Token} (searched : Searched tokens) (unopened : ¬ Opened tokens) :
    count .less tokens = 0 ∧ count .greater tokens = 0 := by
  constructor
  · exact count_zero .less tokens fun token member less => unopened ⟨token, member, less⟩
  · refine count_zero .greater tokens fun token member greater => unopened ?_
    obtain ⟨earlier, later, split⟩ := List.append_of_mem member
    have part : earlier ++ [token] <+: tokens := ⟨later, by simp [split]⟩
    exact (searched.behind earlier token part greater).mono ⟨token :: later, split.symm⟩

theorem Searched.fewer {tokens : List Token} (searched : Searched tokens) :
    count .greater tokens ≤ count .less tokens := by
  by_cases opened : Opened tokens
  · exact Nat.le_of_lt (searched.nested tokens (List.prefix_refl tokens) opened)
  · have none := searched.unopened opened
    omega

theorem Searched.concat {tokens : List Token} {token : Token} (searched : Searched tokens)
    (solid : token.kind ≠ .openBrace) (deep : token.kind = .greater → 1 < depth tokens) :
    Searched (tokens ++ [token]) := by
  have fewer := searched.fewer
  refine ⟨?_, ?_, ?_⟩
  · intro other member
    rcases List.mem_append.mp member with early | last
    · exact searched.braceless other early
    · rwa [List.mem_singleton.mp last]
  · intro earlier other part greater
    rcases List.prefix_concat_iff.mp part with whole | early
    · obtain ⟨rfl, rfl⟩ := List.append_singleton_inj.mp whole
      by_contra unopened
      have none := searched.unopened unopened
      have more := deep greater
      simp only [depth] at more
      omega
    · exact searched.behind earlier other early greater
  · intro front part opened
    rcases List.prefix_concat_iff.mp part with rfl | early
    · by_cases greater : token.kind = .greater
      · have more := deep greater
        have counts := counts_greater tokens token greater
        simp only [depth] at more
        omega
      · by_cases less : token.kind = .less
        · have counts := counts_less tokens token less
          omega
        · have before : Opened tokens := ((opened_concat tokens token).mp opened).resolve_right less
          have more := searched.nested tokens (List.prefix_refl tokens) before
          have counts := counts_other tokens token less greater
          omega
    · exact searched.nested front early opened

theorem ClosesArguments.searched {front : List Token} {last : Token} (closes : ClosesArguments front last) :
    Searched front where
  braceless := closes.braceless
  behind := fun earlier token part => closes.behind earlier token (part.trans (List.prefix_append _ _))
  nested := closes.nested

theorem Stray.searched {front : List Token} {last : Token} (stray : Stray front last) : Searched front where
  braceless := stray.braceless
  behind := fun earlier token part greater =>
    absurd greater (stray.unclosed token (last_member part))
  nested := fun shorter part opened => by
    obtain ⟨token, member, less⟩ := opened
    exact absurd less (stray.unopened token (part.subset member))

theorem ends_iff (front : List Token) (last : Token) :
    Ends front last ↔ Searched front ∧ last.kind = .greater ∧ depth front ≤ 1 := by
  constructor
  · rintro (closes | stray)
    · refine ⟨closes.searched, closes.closer, ?_⟩
      have even := closes.even
      have counts := counts_greater front last closes.closer
      simp only [depth]
      omega
    · refine ⟨stray.searched, stray.closer, ?_⟩
      rw [depth, count_zero .less front stray.unopened]
      omega
  · rintro ⟨searched, greater, shallow⟩
    simp only [depth] at shallow
    by_cases opened : Opened front
    · have more := searched.nested front (List.prefix_refl front) opened
      have counts := counts_greater front last greater
      refine .inl ⟨searched.braceless, opened, greater, by omega, ?_, searched.nested⟩
      intro earlier token part
      rcases List.prefix_concat_iff.mp part with whole | early
      · obtain ⟨rfl, rfl⟩ := List.append_singleton_inj.mp whole
        exact fun _ => opened
      · exact searched.behind earlier token early
    · refine .inr ⟨searched.braceless, fun token member less => opened ⟨token, member, less⟩, ?_, greater⟩
      have none := (searched.unopened opened).2
      rw [count, List.countP_eq_zero] at none
      intro token member
      simpa using none token member

theorem closing_goes_on (front : List Token) (token : Token) (searched : Searched (front ++ [token])) :
    Brackets.closing (depth front) token = .goOn (depth (front ++ [token])) := by
  have fewer := searched.front.fewer
  by_cases less : token.kind = .less
  · have counts := counts_less front token less
    have deeper : depth (front ++ [token]) = depth front + 1 := by
      simp only [depth]
      omega
    rw [Brackets.closing_less _ token less, deeper]
  · by_cases greater : token.kind = .greater
    · have opened := searched.behind front token (List.prefix_refl _) greater
      have more := searched.nested _ (List.prefix_refl _) ((opened_concat front token).mpr (.inl opened))
      have counts := counts_greater front token greater
      have higher : depth (front ++ [token]) = depth front - 1 ∧ ¬ depth front ≤ 1 := by
        simp only [depth]
        omega
      rw [Brackets.closing_greater _ token greater, if_neg higher.2, higher.1]
    · have brace := searched.braceless token (last_member (List.prefix_refl _))
      have counts := counts_other front token less greater
      have same : depth (front ++ [token]) = depth front := by rw [depth, counts.1, counts.2, depth]
      rw [Brackets.closing_other _ token less greater brace, same]

theorem closing_through (front rest : List Token) (searched : Searched front) :
    Sight.through Brackets.closing 0 (front ++ rest) = Sight.through Brackets.closing (depth front) rest := by
  induction front using List.reverseRecOn generalizing rest with
  | nil => rfl
  | append_singleton front token ih =>
      rw [List.append_assoc, ih _ searched.front, List.singleton_append, Sight.through,
        closing_goes_on front token searched]

theorem closing_found (front rest : List Token) (last : Token) (ends : Ends front last) :
    Sight.through Brackets.closing 0 (front ++ last :: rest) = some (some last.span.stop) := by
  obtain ⟨searched, greater, shallow⟩ := (ends_iff front last).mp ends
  rw [closing_through front _ searched, Sight.through, Brackets.closing_greater _ last greater, if_pos shallow]

theorem closing_missing (front rest : List Token) (searched : Searched front)
    (never : ∀ done last, done ++ [last] <+: front ++ rest → ¬ Ends done last) :
    (Sight.through Brackets.closing (depth front) rest).join = none := by
  induction rest generalizing front with
  | nil => rfl
  | cons token rest ih =>
      have split : front ++ token :: rest = front ++ [token] ++ rest := by simp
      by_cases brace : token.kind = .openBrace
      · rw [Sight.through, Brackets.closing_brace _ token brace]
        rfl
      · have deep : token.kind = .greater → 1 < depth front := by
          intro greater
          by_contra shallow
          exact never front token ⟨rest, split.symm⟩
            ((ends_iff front token).mpr ⟨searched, greater, Nat.le_of_not_lt shallow⟩)
        have onward := searched.concat brace deep
        rw [Sight.through, closing_goes_on front token onward]
        exact ih (front ++ [token]) onward fun done last part => never done last (split ▸ part)

end Token

namespace Scanner

def tokensFrom (scanner : Scanner) (start : Nat) : List Token :=
  (scanner.reset ⟨start, scanner.source.size⟩).rest.1

theorem closing_tokens (scanner : Scanner) (start : Nat) :
    (scanner.closing start).1 =
      (Sight.through Brackets.closing 0 (scanner.tokensFrom start)).join.getD start := by
  by_cases blank : scanner.source.size = 0
  · have nothing : scanner.tokensFrom start = [] := by
      rw [tokensFrom, rest_beyond]
      simp [reset, blank]
    rw [nothing, closing, if_pos blank]
    rfl
  · have window : scanner.reset ⟨start, scanner.source.size - 1⟩ = scanner.reset ⟨start, scanner.source.size⟩ := by
      simp only [reset, mk.injEq, true_and]
      omega
    rw [tokensFrom, closing, if_neg blank, window]
    dsimp only
    rw [search_tokens]

theorem token_greater (scanner : Scanner) (c : Char) (greater : (scanner.token c).1 = .greater) :
    c = '>' ∧ (scanner.token c).2 = scanner.advance 1 := by
  revert greater
  unfold token
  split
  next kind mark =>
    rintro rfl
    refine ⟨?_, rfl⟩
    unfold Token.punctuation? at mark
    split at mark <;> simp_all
  next => split_ifs <;> intro greater <;> cases greater

theorem next_greater (scanner after : Scanner) (token : Token) (taken : scanner.next = (some token, after))
    (greater : token.kind = .greater) :
    token.span.start = token.span.stop ∧ scanner.source[token.span.stop]? = some '>' := by
  have moved := skip_trivia_moves scanner
  unfold next at taken
  dsimp only at taken
  split at taken
  next c seen =>
    obtain ⟨given, _⟩ := Prod.mk.inj taken
    obtain rfl := Option.some.inj given
    obtain ⟨rfl, advanced⟩ := token_greater _ c greater
    have position : ((scanner.skipTrivia.token '>').2).position - 1 = scanner.skipTrivia.position := by
      rw [advanced]
      exact Nat.add_sub_cancel _ _
    refine ⟨position.symm, ?_⟩
    rw [position, ← moved.source]
    have visible := seen
    rw [peek, if_pos (peek_within seen)] at visible
    exact visible
  next => cases taken

theorem rest_greater (scanner : Scanner) : ∀ token ∈ scanner.rest.1, token.kind = .greater →
    token.span.start = token.span.stop ∧ scanner.source[token.span.stop]? = some '>' := by
  fun_induction rest scanner with
  | case1 scanner after ended => simp
  | case2 scanner first after taken tokens last same ih =>
      have moved := next_moves scanner
      rw [taken] at moved
      rw [same, moved.source] at ih
      intro token member
      rcases List.mem_cons.mp member with rfl | behind
      · exact next_greater scanner after token taken
      · exact ih token behind

theorem closing_at (scanner : Scanner) (start : Nat) (front : List Token) (last : Token)
    (part : front ++ [last] <+: scanner.tokensFrom start) (ends : Token.Ends front last) :
    (scanner.closing start).1 = last.span.stop := by
  obtain ⟨behind, split⟩ := part
  have whole : scanner.tokensFrom start = front ++ last :: behind := by simpa using split.symm
  rw [closing_tokens, whole, Token.closing_found front behind last ends]
  rfl

theorem closing_nowhere (scanner : Scanner) (start : Nat)
    (never : ∀ front last, front ++ [last] <+: scanner.tokensFrom start → ¬ Token.Ends front last) :
    (scanner.closing start).1 = start := by
  rw [closing_tokens]
  exact congrArg (Option.getD · start) (Token.closing_missing [] _ Token.searched_nil never)

theorem ends_visible (scanner : Scanner) (start : Nat) (front : List Token) (last : Token)
    (part : front ++ [last] <+: scanner.tokensFrom start) (ends : Token.Ends front last) :
    scanner.source[last.span.stop]? = some '>' :=
  (rest_greater _ last (Token.last_member part) ends.closer).2

theorem closing_exact (scanner : Scanner) (start : Nat) :
    let tokens := scanner.tokensFrom start
    (∀ front last, front ++ [last] <+: tokens → Token.Ends front last →
        (scanner.closing start).1 = last.span.stop) ∧
      ((∀ front last, front ++ [last] <+: tokens → ¬ Token.Ends front last) → (scanner.closing start).1 = start) ∧
      ∀ range : Span, range.stop = start →
        let span := ((Anchor.type range true).span scanner).1
        span = range ∨ ∃ front last, front ++ [last] <+: tokens ∧ Token.Ends front last ∧
          range.stop < last.span.stop ∧ scanner.source[last.span.stop]? = some '>' ∧
          span = ⟨range.start, last.span.stop⟩ := by
  intro tokens
  refine ⟨scanner.closing_at start, scanner.closing_nowhere start, ?_⟩
  rintro range rfl span
  by_cases wider : range.stop < (scanner.closing range.stop).1
  · right
    have given : span = ⟨range.start, (scanner.closing range.stop).1⟩ := if_pos wider
    by_contra never
    refine absurd (scanner.closing_nowhere _ fun front last part ends => never ?_) (Nat.ne_of_gt wider)
    rw [scanner.closing_at _ front last part ends] at given wider
    exact ⟨front, last, part, ends, wider, scanner.ends_visible _ front last part ends, given⟩
  · exact .inl (if_neg wider)

-- A list within a list, with a bracket too many behind it; and a brace before any bracket.
theorem nested_arguments_closed :
    let scanner := ofText "a<b<c>>>\x7b".toList
    let front : List Token := [⟨.identifier, ⟨0, 0⟩⟩, ⟨.less, ⟨1, 1⟩⟩, ⟨.identifier, ⟨2, 2⟩⟩, ⟨.less, ⟨3, 3⟩⟩,
      ⟨.identifier, ⟨4, 4⟩⟩, ⟨.greater, ⟨5, 5⟩⟩]
    let last : Token := ⟨.greater, ⟨6, 6⟩⟩
    (front ++ [last] <+: scanner.tokensFrom 0 ∧ Token.ClosesArguments front last ∧ (scanner.closing 0).1 = 6) ∧
      (∀ front last, front ++ [last] <+: scanner.tokensFrom 8 → ¬ Token.Ends front last) ∧
      (scanner.closing 8).1 = 8 ∧ ((Anchor.type ⟨8, 8⟩ true).span scanner).1 = ⟨8, 8⟩ := by
  intro scanner front last
  have tokens : scanner.tokensFrom 0 = front ++ [last, ⟨.greater, ⟨7, 7⟩⟩, ⟨.openBrace, ⟨8, 8⟩⟩] := by decide +kernel
  have brace : scanner.tokensFrom 8 = [⟨.openBrace, ⟨8, 8⟩⟩] := by decide +kernel
  have part : front ++ [last] <+: scanner.tokensFrom 0 := by
    rw [tokens]
    exact ⟨[⟨.greater, ⟨7, 7⟩⟩, ⟨.openBrace, ⟨8, 8⟩⟩], rfl⟩
  have opened : Token.Searched (front.take 3) :=
    ((Token.searched_nil.concat (by decide) (by decide)).concat (by decide) (by decide)).concat
      (by decide) (by decide)
  have searched : Token.Searched front :=
    ((opened.concat (by decide) (by decide)).concat (by decide) (by decide)).concat (by decide) (by decide)
  have ends : Token.Ends front last := (Token.ends_iff front last).mpr ⟨searched, rfl, by decide⟩
  have closes : Token.ClosesArguments front last :=
    ends.resolve_right fun stray => stray.unopened ⟨.less, ⟨1, 1⟩⟩ (by decide) rfl
  have never : ∀ front last, front ++ [last] <+: scanner.tokensFrom 8 → ¬ Token.Ends front last := by
    intro front last part ends
    rw [brace] at part
    have greater := ends.closer
    rw [List.mem_singleton.mp (Token.last_member part)] at greater
    cases greater
  have stays := (closing_exact scanner 8).2.1 never
  refine ⟨⟨part, closes, (closing_exact scanner 0).1 front last part ends⟩, never, stays, ?_⟩
  rcases (closing_exact scanner 8).2.2 ⟨8, 8⟩ rfl with own | ⟨front, last, part, ends, _⟩
  · exact own
  · exact absurd ends (never front last part)

-- A comparison that no type arguments come before is taken for their end.
theorem stray_bracket_taken :
    let scanner := ofText "a > b".toList
    (∀ front last, front ++ [last] <+: scanner.tokensFrom 0 → ¬ Token.ClosesArguments front last) ∧
      (scanner.closing 0).1 = 2 ∧ ((Anchor.type ⟨0, 0⟩ true).span scanner).1 = ⟨0, 2⟩ := by
  intro scanner
  have unopened : ∀ token ∈ scanner.tokensFrom 0, token.kind ≠ .less := by decide +kernel
  refine ⟨?_, by decide +kernel, by decide +kernel⟩
  rintro front last part closes
  obtain ⟨token, member, less⟩ := closes.opened
  exact unopened token (part.subset (List.mem_append_left _ member)) less

end Scanner

end JavaDiagnostics
