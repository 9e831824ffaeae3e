import JavaDiagnostics.Proofs.Source.Tokens

/-!
Two scanners go over their texts side by side, the first by a fixed number of characters further on in its
source.
-/

set_option autoImplicit false

namespace JavaDiagnostics

def Token.later (shift : Nat) (token : Token) : Token :=
  ⟨token.kind, ⟨token.span.start + shift, token.span.stop + shift⟩⟩

namespace Scanner

structure Abreast (shift : Nat) (a b : Scanner) : Prop where
  position : a.position = b.position + shift
  limit : a.limit = b.limit + shift

-- Up to an offset the second scanner sees what the first one sees. Behind it a blank may stand for a
-- character.
def Echoes (clear : Nat) (a b : Scanner) : Prop :=
  ∀ i, b.peek i = a.peek i ∨ clear ≤ a.position + i ∧ a.peek i ≠ none ∧ b.peek i = some ' '

theorem advance_peek (scanner : Scanner) (count i : Nat) :
    (scanner.advance count).peek i = scanner.peek (count + i) := by
  simp only [peek, advance, Nat.add_assoc]

theorem Abreast.advance {shift : Nat} {a b : Scanner} (abreast : Abreast shift a b) (count : Nat) :
    Abreast shift (a.advance count) (b.advance count) := by
  constructor
  · simp only [Scanner.advance, abreast.position, Nat.add_right_comm]
  · exact abreast.limit

theorem Abreast.clamp {shift : Nat} {a b : Scanner} (abreast : Abreast shift a b) :
    Abreast shift a.clamp b.clamp := by
  constructor
  · simp only [Scanner.clamp, abreast.position, abreast.limit, Nat.add_min_add_right]
  · exact abreast.limit

theorem Echoes.advance {clear : Nat} {a b : Scanner} (echoes : Echoes clear a b) (count : Nat) :
    Echoes clear (a.advance count) (b.advance count) := by
  intro i
  have seen := echoes (count + i)
  rw [advance_peek, advance_peek]
  simpa only [Scanner.advance, Nat.add_assoc] using seen

theorem Echoes.clear {clear : Nat} {a b : Scanner} (echoes : Echoes clear a b) (i : Nat)
    (before : a.position + i < clear) : b.peek i = a.peek i := by
  rcases echoes i with same | ⟨behind, _⟩
  · exact same
  · exact absurd before (Nat.not_lt_of_le behind)

theorem Echoes.unseen {clear : Nat} {a b : Scanner} (echoes : Echoes clear a b) (i : Nat)
    (unseen : a.peek i = none) : b.peek i = none := by
  rcases echoes i with same | ⟨_, visible, _⟩
  · rw [same, unseen]
  · exact absurd unseen visible

-- Nothing is seen behind the window, and so a blank stands for nothing there.
theorem echoes_unclamped (clear : Nat) (a b : Scanner) (echoes : Echoes (min clear a.limit) a b) :
    Echoes clear a b := by
  intro i
  rcases echoes i with same | ⟨behind, visible, blank⟩
  · exact .inl same
  · obtain ⟨c, seen⟩ := Option.ne_none_iff_exists'.mp visible
    have within := peek_within seen
    exact .inr ⟨by omega, visible, blank⟩

theorem skip_while_accepted (accepts : Char → Bool) (scanner : Scanner) (c : Char)
    (seen : scanner.peek 0 = some c) (accepted : accepts c = true) :
    scanner.skipWhile accepts = (scanner.advance 1).skipWhile accepts := by
  rw [skipWhile]
  split
  next other found =>
    obtain rfl := Option.some.inj (seen.symm.trans found)
    exact if_pos accepted
  next absent => cases seen.symm.trans absent

theorem skip_while_refused (accepts : Char → Bool) (scanner : Scanner)
    (refused : ∀ c ∈ scanner.peek 0, accepts c = false) : scanner.skipWhile accepts = scanner := by
  rw [skipWhile]
  split
  next c found => exact if_neg (Bool.eq_false_iff.mp (refused c found))
  next => rfl

theorem skip_comment_eq (scanner : Scanner) : scanner.skipComment =
    match scanner.peek 0 with
    | some c =>
        if c = '*' ∧ scanner.peek 1 = some '/' then scanner.advance 2 else (scanner.advance 1).skipComment
    | none => scanner := by
  rw [skipComment]
  split <;> simp_all

theorem skip_trivia_eq (scanner : Scanner) : scanner.skipTrivia =
    match scanner.peek 0 with
    | some c =>
        if Text.isBlank c then (scanner.advance 1).skipTrivia
        else if c = '/' ∧ scanner.peek 1 = some '/' then scanner.skipLineComment.skipTrivia
        else if c = '/' ∧ scanner.peek 1 = some '*' then scanner.skipBlockComment.skipTrivia
        else scanner
    | none => scanner := by
  rw [skipTrivia]
  split <;> simp_all

theorem skip_quoted_eq (quote : Char) (scanner : Scanner) : scanner.skipQuoted quote =
    match scanner.peek 0 with
    | some c =>
        if c = '\\' then (scanner.advance 2).skipQuoted quote
        else if c = quote ∨ Token.isLineEnd c then scanner.advance 1
        else (scanner.advance 1).skipQuoted quote
    | none => scanner := by
  rw [skipQuoted]
  split <;> simp_all

-- Both take the same number of characters: as long as the first one goes on the second sees the same, and
-- what it sees behind that ends its run too.
theorem skip_while_abreast (accepts : Char → Bool) (shift : Nat) (a b : Scanner) (abreast : Abreast shift a b)
    (sees : ∀ i, b.peek i = a.peek i ∨
      (a.skipWhile accepts).position ≤ a.position + i ∧ ∀ c ∈ b.peek i, accepts c = false) :
    Abreast shift (a.skipWhile accepts) (b.skipWhile accepts) := by
  fun_induction skipWhile accepts a generalizing b with
  | case1 a c seen accepted ih =>
      have forward := (skip_while_moves accepts (a.advance 1)).forward
      have same : b.peek 0 = some c := by
        rcases sees 0 with same | ⟨behind, _⟩
        · rw [same, seen]
        · exact absurd (Nat.le_trans forward behind) (Nat.not_succ_le_self _)
      rw [skip_while_accepted accepts b c same accepted]
      refine ih (b.advance 1) (abreast.advance 1) fun i => ?_
      rw [advance_peek, advance_peek]
      simpa only [advance, Nat.add_assoc] using sees (1 + i)
  | case2 a c seen refused =>
      rw [skip_while_refused accepts b]
      · exact abreast
      · intro d found
        rcases sees 0 with same | ⟨_, ended⟩
        · rw [same, seen] at found
          obtain rfl := Option.some.inj found
          exact Bool.eq_false_iff.mpr refused
        · exact ended d found
  | case3 a unseen =>
      rw [skip_while_refused accepts b]
      · exact abreast
      · intro d found
        rcases sees 0 with same | ⟨_, ended⟩
        · cases (same.trans unseen).symm.trans found
        · exact ended d found

theorem skip_while_echoes (accepts : Char → Bool) (shift : Nat) (a b : Scanner) (abreast : Abreast shift a b)
    (refuses : accepts ' ' = false) (echoes : Echoes (a.skipWhile accepts).position a b) :
    Abreast shift (a.skipWhile accepts) (b.skipWhile accepts) := by
  refine skip_while_abreast accepts shift a b abreast fun i => ?_
  rcases echoes i with same | ⟨behind, _, blank⟩
  · exact .inl same
  · refine .inr ⟨behind, fun c found => ?_⟩
    obtain rfl := Option.some.inj (blank.symm.trans found)
    exact refuses

theorem skip_quoted_echoes (quote : Char) (shift : Nat) (a b : Scanner) (abreast : Abreast shift a b)
    (echoes : Echoes (a.skipQuoted quote).position a b) :
    Abreast shift (a.skipQuoted quote) (b.skipQuoted quote) := by
  fun_induction skipQuoted quote a generalizing b with
  | case1 a seen ih =>
      have forward := (skip_quoted_moves quote (a.advance 2)).forward
      have same : b.peek 0 = some '\\' := by
        rw [echoes.clear 0 (Nat.lt_of_lt_of_le (by simp [advance]) forward), seen]
      rw [skip_quoted_eq quote b, same]
      exact ih (b.advance 2) (abreast.advance 2) (echoes.advance 2)
  | case2 a c seen plain closed =>
      have same : b.peek 0 = some c := by rw [echoes.clear 0 (by simp [advance]), seen]
      rw [skip_quoted_eq quote b, same]
      simpa only [if_neg plain, if_pos closed] using abreast.advance 1
  | case3 a c seen plain opened ih =>
      have forward := (skip_quoted_moves quote (a.advance 1)).forward
      have same : b.peek 0 = some c := by
        rw [echoes.clear 0 (Nat.lt_of_lt_of_le (by simp [advance]) forward), seen]
      rw [skip_quoted_eq quote b, same]
      simpa only [if_neg plain, if_neg opened] using ih (b.advance 1) (abreast.advance 1) (echoes.advance 1)
  | case4 a unseen =>
      rw [skip_quoted_eq quote b, echoes.unseen 0 unseen]
      exact abreast

-- A token is decided by its own characters, if no more is known of what follows than that blanks may
-- have taken its place.
theorem token_echoes (c : Char) (shift : Nat) (a b : Scanner) (abreast : Abreast shift a b)
    (echoes : Echoes (a.token c).2.position a b) :
    (a.token c).1 = (b.token c).1 ∧ Abreast shift (a.token c).2 (b.token c).2 := by
  revert echoes
  unfold token
  split
  · exact fun _ => ⟨rfl, abreast.advance 1⟩
  · split
    · intro echoes
      have limit : ((a.advance 1).skipQuoted c).limit = a.limit := (skip_quoted_moves c (a.advance 1)).limit
      have unclamped : Echoes ((a.advance 1).skipQuoted c).position a b :=
        echoes_unclamped _ a b (by simpa only [clamp, limit] using echoes)
      have skipped := skip_quoted_echoes c shift _ _ (abreast.advance 1) (unclamped.advance 1)
      exact ⟨rfl, skipped.clamp⟩
    · split
      · exact fun echoes => ⟨rfl, skip_while_echoes Token.isNumberPart shift a b abreast (by decide) echoes⟩
      · split
        · exact fun echoes =>
            ⟨rfl, skip_while_echoes Text.Identifier.canContinue shift a b abreast (by decide) echoes⟩
        · exact fun _ => ⟨rfl, abreast.advance 1⟩

structure Twins (shift : Nat) (a b : Scanner) : Prop extends Abreast shift a b where
  text : b.window = a.window.drop shift

theorem Twins.peek {shift : Nat} {a b : Scanner} (twins : Twins shift a b) (i : Nat) : b.peek i = a.peek i := by
  rw [peek_ahead, peek_ahead, ahead, ahead, twins.text, List.drop_drop, twins.position, Nat.add_comm]

theorem Twins.advance {shift : Nat} {a b : Scanner} (twins : Twins shift a b) (count : Nat) :
    Twins shift (a.advance count) (b.advance count) :=
  ⟨twins.toAbreast.advance count, twins.text⟩

theorem Twins.moved {shift : Nat} {a b c d : Scanner} (twins : Twins shift a b) (first : Moves a c)
    (second : Moves b d) (abreast : Abreast shift c d) : Twins shift c d := by
  refine ⟨abreast, ?_⟩
  rw [moves_window b d second, moves_window a c first, twins.text]

theorem skip_while_twins (accepts : Char → Bool) (shift : Nat) (a b : Scanner) (twins : Twins shift a b) :
    Twins shift (a.skipWhile accepts) (b.skipWhile accepts) :=
  twins.moved (skip_while_moves accepts a) (skip_while_moves accepts b)
    (skip_while_abreast accepts shift a b twins.toAbreast fun i => .inl (twins.peek i))

theorem skip_comment_twins (shift : Nat) (a b : Scanner) (twins : Twins shift a b) :
    Twins shift a.skipComment b.skipComment := by
  fun_induction skipComment a generalizing b with
  | case1 a c seen closed =>
      rw [skip_comment_eq b, twins.peek, twins.peek, seen]
      simpa only [if_pos closed] using twins.advance 2
  | case2 a c seen opened ih =>
      rw [skip_comment_eq b, twins.peek, twins.peek, seen]
      simpa only [if_neg opened] using ih (b.advance 1) (twins.advance 1)
  | case3 a unseen =>
      rw [skip_comment_eq b, twins.peek, unseen]
      exact twins

theorem skip_trivia_twins (shift : Nat) (a b : Scanner) (twins : Twins shift a b) :
    Twins shift a.skipTrivia b.skipTrivia := by
  fun_induction skipTrivia a generalizing b with
  | case1 a c seen blank ih =>
      rw [skip_trivia_eq b, twins.peek, seen]
      simpa only [if_pos blank] using ih (b.advance 1) (twins.advance 1)
  | case2 a c seen solid comment ih =>
      have onward : Twins shift a.skipLineComment b.skipLineComment :=
        skip_while_twins _ shift _ _ (twins.advance 2)
      rw [skip_trivia_eq b, twins.peek, twins.peek, seen]
      simpa only [if_neg solid, if_pos comment] using ih b.skipLineComment onward
  | case3 a c seen solid code comment ih =>
      have onward : Twins shift a.skipBlockComment b.skipBlockComment :=
        skip_comment_twins shift _ _ (twins.advance 2)
      rw [skip_trivia_eq b, twins.peek, twins.peek, seen]
      simpa only [if_neg solid, if_neg code, if_pos comment] using ih b.skipBlockComment onward
  | case4 a c seen solid code other =>
      rw [skip_trivia_eq b, twins.peek, twins.peek, seen]
      simpa only [if_neg solid, if_neg code, if_neg other] using twins
  | case5 a unseen =>
      rw [skip_trivia_eq b, twins.peek, unseen]
      exact twins

theorem next_abreast (shift : Nat) (a b : Scanner) (reached : Abreast shift a.skipTrivia b.skipTrivia)
    (echoes : Echoes a.next.2.position a.skipTrivia b.skipTrivia) :
    a.next.1 = b.next.1.map (Token.later shift) ∧ Abreast shift a.next.2 b.next.2 := by
  revert echoes
  unfold next
  dsimp only
  cases seen : a.skipTrivia.peek 0 with
  | none =>
      intro echoes
      rw [echoes.unseen 0 seen]
      exact ⟨rfl, reached⟩
  | some c =>
      intro echoes
      have forward := (token_moves _ c seen).2
      have same : b.skipTrivia.peek 0 = some c := by rw [echoes.clear 0 forward, seen]
      obtain ⟨kind, left⟩ := token_echoes c shift _ _ reached echoes
      have behind := (token_moves _ c same).2
      rw [same]
      refine ⟨?_, left⟩
      simp only [Option.map_some, Token.later, kind, reached.position, left.position]
      rw [Nat.sub_add_comm (Nat.one_le_of_lt behind)]

theorem next_twins (shift : Nat) (a b : Scanner) (twins : Twins shift a b) :
    a.next.1 = b.next.1.map (Token.later shift) ∧ Twins shift a.next.2 b.next.2 := by
  have reached := skip_trivia_twins shift a b twins
  obtain ⟨token, left⟩ := next_abreast shift a b reached.toAbreast (fun i => .inl (reached.peek i))
  exact ⟨token, twins.moved (next_moves a) (next_moves b) left⟩

theorem rest_twins (shift : Nat) (a b : Scanner) (twins : Twins shift a b) :
    a.rest.1 = b.rest.1.map (Token.later shift) := by
  fun_induction rest a generalizing b with
  | case1 a after ended =>
      obtain ⟨token, _⟩ := next_twins shift a b twins
      rw [ended, eq_comm, Option.map_eq_none_iff] at token
      rw [rest_none b token]
      rfl
  | case2 a token after taken tokens last same ih =>
      obtain ⟨given, onward⟩ := next_twins shift a b twins
      rw [taken, eq_comm, Option.map_eq_some_iff] at given
      rw [taken] at onward
      obtain ⟨earlier, found, rfl⟩ := given
      rw [same] at ih
      rw [rest_some b earlier found, List.map_cons]
      exact congrArg _ (ih b.next.2 onward)

theorem skip_trivia_stays (scanner : Scanner) (solid : scanner.ahead = [] ∨ Solid scanner.ahead) :
    scanner.skipTrivia = scanner := by
  rw [skip_trivia_eq, peek_ahead, peek_ahead]
  rcases solid with nothing | ⟨c, here, dark, code⟩
  · rw [nothing]
    rfl
  · simp only [here, dark, Bool.false_eq_true, if_false]
    rw [if_neg fun comment => code ⟨comment.1, .inl comment.2⟩,
      if_neg fun comment => code ⟨comment.1, .inr comment.2⟩]

theorem skip_trivia_twice (scanner : Scanner) : scanner.skipTrivia.skipTrivia = scanner.skipTrivia := by
  apply skip_trivia_stays
  cases seen : scanner.skipTrivia.peek 0 with
  | none => exact .inl (ahead_nil _ seen)
  | some c => exact .inr (skip_trivia_solid scanner c seen)

theorem rest_skip_trivia (scanner : Scanner) : scanner.skipTrivia.rest.1 = scanner.rest.1 := by
  have same : scanner.skipTrivia.next = scanner.next := by rw [next, next, skip_trivia_twice]
  cases found : scanner.next.1 with
  | none => rw [rest_none scanner found, rest_none _ (same ▸ found)]
  | some token => rw [rest_some scanner token found, rest_some _ token (same ▸ found), same]

theorem next_start (scanner : Scanner) (token : Token) (taken : scanner.next.1 = some token) :
    token.span.start = scanner.skipTrivia.position := by
  unfold next at taken
  dsimp only at taken
  split at taken
  next c seen =>
    obtain rfl := Option.some.inj taken
    rfl
  next => cases taken

theorem rest_from_token (scanner : Scanner) (place : Nat) (token : Token)
    (found : scanner.rest.1[place]? = some token) :
    ({ scanner with position := token.span.start } : Scanner).rest.1 = scanner.rest.1.drop place := by
  fun_induction rest scanner generalizing place with
  | case1 scanner after ended => cases found
  | case2 scanner first after taken tokens last same ih =>
      cases place with
      | zero =>
          obtain rfl := Option.some.inj found
          have moved := skip_trivia_moves scanner
          have start := next_start scanner first (congrArg Prod.fst taken)
          have begun : ({ scanner with position := first.span.start } : Scanner) = scanner.skipTrivia := by
            rw [start, ← moved.source, ← moved.limit]
          rw [begun, rest_skip_trivia, rest_some scanner first (congrArg Prod.fst taken), taken, same]
          rfl
      | succ place =>
          have moved := next_moves scanner
          rw [taken] at moved
          rw [same] at ih
          have onward := ih place found
          rw [moved.source, moved.limit] at onward
          exact onward

theorem reset_window (scanner : Scanner) (span : Span) :
    (scanner.reset span).window = scanner.source.toList.take (span.stop + 1) := by
  rw [window]
  simp only [reset, ← Array.length_toList, ← List.take_take, List.take_length]

theorem text_window (text : List Char) : (ofText text).window = text := by simp [window, ofText]

def extract (scanner : Scanner) (span : Span) : List Char :=
  (scanner.source.toList.take (span.stop + 1)).drop span.start

theorem rest_beyond (scanner : Scanner) (ended : scanner.limit ≤ scanner.position) : scanner.rest.1 = [] := by
  apply rest_none
  cases taken : scanner.next with
  | mk found after =>
      cases found with
      | none => rfl
      | some token =>
          have progress := next_progress scanner after token taken
          omega

theorem reset_twins (scanner : Scanner) (span : Span) (inside : span.start ≤ (scanner.reset span).limit) :
    Twins span.start (scanner.reset span) (ofText (scanner.extract span)) := by
  have bound : span.start ≤ min (span.stop + 1) scanner.source.size := inside
  refine ⟨⟨?_, ?_⟩, ?_⟩
  · simp only [reset, ofText]
    omega
  · simp only [reset, ofText, extract, List.length_drop, List.length_take, Array.length_toList]
    omega
  · rw [text_window, reset_window, extract]

theorem window_tokens (scanner : Scanner) (span : Span) :
    (scanner.reset span).rest.1 = (ofText (scanner.extract span)).rest.1.map (Token.later span.start) := by
  by_cases inside : span.start ≤ (scanner.reset span).limit
  · exact rest_twins span.start _ _ (reset_twins scanner span inside)
  · have outside : min (span.stop + 1) scanner.source.size < span.start := Nat.lt_of_not_le inside
    have nothing : scanner.extract span = [] := by
      rw [extract, List.drop_eq_nil_iff, List.length_take, Array.length_toList]
      exact Nat.le_of_lt outside
    rw [nothing, rest_beyond (ofText []) (Nat.le_refl _), rest_beyond]
    · rfl
    · simp only [reset]
      omega

theorem tokens_local (scanner : Scanner) (span : Span) :
    let tokens := (scanner.reset span).rest.1
    tokens = (ofText (scanner.extract span)).rest.1.map (Token.later span.start) ∧
      ∀ place : Fin tokens.length,
        (scanner.reset ⟨tokens[place].span.start, span.stop⟩).rest.1 = tokens.drop place := by
  intro tokens
  refine ⟨window_tokens scanner span, fun place => ?_⟩
  have framed : (scanner.reset span).limit ≤ (scanner.reset span).source.size := Nat.min_le_right _ _
  have bounds := Token.spaced_within _ _ tokens (rest_spaced _ framed) tokens[place] (List.getElem_mem _)
  rw [reset_window, List.length_take, Array.length_toList] at bounds
  have within : tokens[place].span.start ≤ scanner.source.size := by omega
  have begun : scanner.reset ⟨tokens[place].span.start, span.stop⟩ =
      { scanner.reset span with position := tokens[place].span.start } := by
    simp only [reset, Nat.min_eq_left within]
  rw [begun]
  exact rest_from_token (scanner.reset span) place tokens[place] (List.getElem?_eq_getElem _)

end Scanner

end JavaDiagnostics
