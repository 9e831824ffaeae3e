import JavaDiagnostics.Source.Brackets
import Mathlib.Data.List.Infix
import Mathlib.Data.List.TakeWhile

set_option autoImplicit false

namespace JavaDiagnostics

def commentEnd : List Char := ['*', '/']

-- White space and comments at the front of a text, and the rest of the text behind them. Where the text
-- ends, a line comment needs no line end and a block comment no closing. The star that opens a comment is
-- no part of its end.
inductive Gap : List Char → List Char → Prop where
  | nothing (text : List Char) : Gap text text
  | blank (c : Char) (text rest : List Char) (white : Text.isBlank c = true) (more : Gap text rest) :
      Gap (c :: text) rest
  | lineComment (comment text rest : List Char) (inside : ∀ c ∈ comment, Token.isLineEnd c = false)
      (ended : ∀ c ∈ text.head?, Token.isLineEnd c = true) (more : Gap text rest) :
      Gap ('/' :: '/' :: (comment ++ text)) rest
  | blockComment (comment text rest : List Char) (first : ¬ commentEnd <:+: comment ++ ['*'])
      (more : Gap text rest) : Gap ('/' :: '*' :: (comment ++ commentEnd ++ text)) rest
  | openComment (comment : List Char) (unclosed : ¬ commentEnd <:+: comment) :
      Gap ('/' :: '*' :: comment) []

theorem Gap.of_nil {rest : List Char} (gap : Gap [] rest) : rest = [] := by
  cases gap
  rfl

def Solid (text : List Char) : Prop :=
  ∃ c, text[0]? = some c ∧ Text.isBlank c = false ∧
    ¬ (c = '/' ∧ (text[1]? = some '/' ∨ text[1]? = some '*'))

namespace Scanner

def window (scanner : Scanner) : List Char := scanner.source.toList.take scanner.limit

def ahead (scanner : Scanner) : List Char := scanner.window.drop scanner.position

theorem peek_ahead (scanner : Scanner) (k : Nat) : scanner.peek k = scanner.ahead[k]? := by
  simp only [peek, ahead, window, List.getElem?_drop, List.getElem?_take, Array.getElem?_toList]

theorem ahead_advance (scanner : Scanner) (count : Nat) :
    (scanner.advance count).ahead = scanner.ahead.drop count := by
  simp [ahead, window, advance, List.drop_drop]

theorem ahead_cons (scanner : Scanner) (c : Char) (seen : scanner.peek 0 = some c) :
    scanner.ahead = c :: (scanner.advance 1).ahead := by
  rw [peek_ahead] at seen
  rw [ahead_advance]
  cases left : scanner.ahead with
  | nil => simp [left] at seen
  | cons first rest =>
      rw [left] at seen
      obtain rfl := Option.some.inj seen
      rfl

theorem ahead_nil (scanner : Scanner) (unseen : scanner.peek 0 = none) : scanner.ahead = [] := by
  rw [peek_ahead, List.getElem?_eq_none_iff] at unseen
  exact List.length_eq_zero_iff.mp (Nat.le_zero.mp unseen)

theorem ahead_two (scanner : Scanner) (c d : Char) (seen : scanner.peek 0 = some c)
    (next : scanner.peek 1 = some d) : scanner.ahead = c :: d :: (scanner.advance 2).ahead := by
  have behind : (scanner.advance 1).peek 0 = some d := by
    rw [peek_ahead, ahead_advance, List.getElem?_drop, ← peek_ahead]
    exact next
  rw [scanner.ahead_cons c seen, ahead_cons _ d behind]
  rfl

theorem skip_while_ahead (accepts : Char → Bool) (scanner : Scanner) :
    (scanner.skipWhile accepts).ahead = scanner.ahead.dropWhile accepts := by
  fun_induction skipWhile accepts scanner with
  | case1 scanner c seen accepted ih => rw [ih, scanner.ahead_cons c seen, List.dropWhile_cons_of_pos accepted]
  | case2 scanner c seen refused => rw [scanner.ahead_cons c seen, List.dropWhile_cons_of_neg refused]
  | case3 scanner seen =>
      rw [scanner.ahead_nil seen]
      rfl

theorem comment_end_cons (c : Char) (text : List Char) (opened : ¬ (c = '*' ∧ text[0]? = some '/'))
    (later : ¬ commentEnd <:+: text) : ¬ commentEnd <:+: c :: text := by
  intro held
  rcases List.infix_cons_iff.mp held with here | there
  · obtain ⟨rest, same⟩ := here
    obtain ⟨rfl, rfl⟩ := List.cons.inj same
    exact opened ⟨rfl, rfl⟩
  · exact later there

-- A comment is closed by the first end behind its opening, or it takes the rest of the window.
theorem skip_comment_ahead (scanner : Scanner) :
    (∃ comment, scanner.ahead = comment ++ commentEnd ++ scanner.skipComment.ahead ∧
      ¬ commentEnd <:+: comment ++ ['*']) ∨
    (scanner.skipComment.ahead = [] ∧ ¬ commentEnd <:+: scanner.ahead) := by
  fun_induction skipComment scanner with
  | case1 scanner c seen closed =>
      obtain ⟨rfl, slash⟩ := closed
      exact .inl ⟨[], scanner.ahead_two _ _ seen slash, by decide⟩
  | case2 scanner c seen opened ih =>
      rw [peek_ahead scanner 1, scanner.ahead_cons c seen] at opened
      rcases ih with ⟨comment, left, first⟩ | ⟨nothing, unclosed⟩
      · refine .inl ⟨c :: comment, ?_, comment_end_cons c _ ?_ first⟩
        · rw [scanner.ahead_cons c seen, left]
          rfl
        · rw [left] at opened
          cases comment <;> exact opened
      · rw [scanner.ahead_cons c seen]
        exact .inr ⟨nothing, comment_end_cons c _ opened unclosed⟩
  | case3 scanner seen =>
      rw [scanner.ahead_nil seen]
      exact .inr ⟨rfl, by decide⟩

theorem skip_trivia_gap (scanner : Scanner) : Gap scanner.ahead scanner.skipTrivia.ahead := by
  fun_induction skipTrivia scanner with
  | case1 scanner c seen blank ih =>
      rw [scanner.ahead_cons c seen]
      exact .blank c _ _ blank ih
  | case2 scanner c seen solid comment ih =>
      obtain ⟨rfl, slash⟩ := comment
      rw [scanner.ahead_two _ _ seen slash]
      have behind : scanner.skipLineComment.ahead =
          (scanner.advance 2).ahead.dropWhile (!Token.isLineEnd ·) := skip_while_ahead _ _
      rw [behind] at ih
      have parts : (scanner.advance 2).ahead.takeWhile (!Token.isLineEnd ·) ++
          (scanner.advance 2).ahead.dropWhile (!Token.isLineEnd ·) = (scanner.advance 2).ahead :=
        List.takeWhile_append_dropWhile
      rw [← parts]
      refine .lineComment _ _ _ ?_ ?_ ih
      · intro c member
        simpa using List.mem_takeWhile_imp member
      · intro c first
        simpa [Option.mem_def.mp first] using
          List.head?_dropWhile_not (!Token.isLineEnd ·) (scanner.advance 2).ahead
  | case3 scanner c seen solid code comment ih =>
      obtain ⟨rfl, star⟩ := comment
      rw [scanner.ahead_two _ _ seen star]
      rcases skip_comment_ahead (scanner.advance 2) with ⟨comment, left, first⟩ | ⟨nothing, unclosed⟩
      · rw [left]
        exact .blockComment comment _ _ first ih
      · have behind : scanner.skipBlockComment.ahead = [] := nothing
        rw [behind] at ih
        rw [ih.of_nil]
        exact .openComment _ unclosed
  | case4 scanner c seen solid code other => exact .nothing _
  | case5 scanner seen => exact .nothing _

theorem skip_trivia_solid (scanner : Scanner) (c : Char) (seen : scanner.skipTrivia.peek 0 = some c) :
    Solid scanner.skipTrivia.ahead := by
  fun_induction skipTrivia scanner with
  | case1 scanner first found blank ih => exact ih seen
  | case2 scanner first found solid comment ih => exact ih seen
  | case3 scanner first found solid code comment ih => exact ih seen
  | case4 scanner first found solid code other =>
      refine ⟨first, by rw [← peek_ahead, found], by simpa using solid, ?_⟩
      rw [← peek_ahead]
      rintro ⟨rfl, slash | star⟩
      · exact code ⟨rfl, slash⟩
      · exact other ⟨rfl, star⟩
  | case5 scanner absent => cases absent.symm.trans seen

theorem skip_while_within (accepts : Char → Bool) (scanner : Scanner)
    (within : scanner.position ≤ scanner.limit) :
    (scanner.skipWhile accepts).position ≤ scanner.limit := by
  fun_induction skipWhile accepts scanner with
  | case1 scanner c seen accepted ih => exact ih (peek_within seen)
  | case2 scanner c seen refused => exact within
  | case3 scanner seen => exact within

theorem token_within (scanner : Scanner) (c : Char) (seen : scanner.peek 0 = some c) :
    (scanner.token c).2.position ≤ scanner.limit := by
  have within := peek_within seen
  have skipped := fun accepts => skip_while_within accepts scanner (Nat.le_of_lt within)
  unfold token
  split
  · exact within
  · split
    · have limit := (skip_quoted_moves c (scanner.advance 1)).limit
      exact (Nat.min_le_right _ _).trans_eq limit
    · split
      · exact skipped _
      · split
        · exact skipped _
        · exact within

theorem moves_window (before after : Scanner) (moves : Moves before after) : after.window = before.window := by
  rw [window, window, moves.source, moves.limit]

end Scanner

namespace Token

structure Follows (token : Token) (text : List Char) (offset : Nat) : Prop where
  gap : Gap (text.drop offset) (text.drop token.span.start)
  solid : Solid (text.drop token.span.start)
  behind : offset ≤ token.span.start
  nonempty : token.span.start ≤ token.span.stop
  within : token.span.stop < text.length

def Spaced (text : List Char) (offset : Nat) : List Token → Prop
  | [] => Gap (text.drop offset) []
  | token :: rest => token.Follows text offset ∧ Spaced text (token.span.stop + 1) rest

theorem spaced_within (text : List Char) (offset : Nat) (tokens : List Token)
    (spaced : Spaced text offset tokens) :
    ∀ token ∈ tokens, offset ≤ token.span.start ∧ token.span.start ≤ token.span.stop ∧
      token.span.stop < text.length := by
  induction tokens generalizing offset with
  | nil => simp
  | cons first rest ih =>
      obtain ⟨follows, later⟩ := spaced
      intro token member
      rcases List.mem_cons.mp member with rfl | behind
      · exact ⟨follows.behind, follows.nonempty, follows.within⟩
      · have bounds := ih (first.span.stop + 1) later token behind
        have order := follows.behind.trans follows.nonempty
        omega

theorem spaced_apart (text : List Char) (offset : Nat) (tokens : List Token)
    (spaced : Spaced text offset tokens) :
    tokens.Pairwise fun first second => first.span.stop < second.span.start := by
  induction tokens generalizing offset with
  | nil => exact .nil
  | cons first rest ih =>
      obtain ⟨_, later⟩ := spaced
      refine .cons ?_ (ih (first.span.stop + 1) later)
      intro second member
      exact (spaced_within text _ rest later second member).1

theorem spaced_beyond (text : List Char) (offset bound : Nat) (tokens : List Token)
    (covered : text.length ≤ bound) (spaced : Spaced text (min offset bound) tokens) :
    Spaced text offset tokens := by
  have same : text.drop (min offset bound) = text.drop offset := by
    by_cases inside : offset ≤ bound
    · rw [Nat.min_eq_left inside]
    · rw [List.drop_eq_nil_of_le (by omega), List.drop_eq_nil_of_le (by omega)]
  cases tokens with
  | nil => rwa [Spaced, same] at spaced
  | cons token rest =>
      obtain ⟨⟨gap, solid, behind, nonempty, within⟩, later⟩ := spaced
      rw [same] at gap
      exact ⟨⟨gap, solid, by omega, nonempty, within⟩, later⟩

end Token

namespace Scanner

inductive Yields : Scanner → List Token → Scanner → Prop where
  | done (scanner last : Scanner) (ended : scanner.next = (none, last)) : Yields scanner [] last
  | token (scanner after last : Scanner) (token : Token) (rest : List Token)
      (taken : scanner.next = (some token, after)) (more : Yields after rest last) :
      Yields scanner (token :: rest) last

theorem rest_yields (scanner : Scanner) : scanner.Yields scanner.rest.1 scanner.rest.2 := by
  fun_induction rest scanner with
  | case1 scanner after ended => exact .done scanner after ended
  | case2 scanner token after taken tokens last same ih =>
      rw [same] at ih
      exact .token scanner after last token tokens taken ih

theorem rest_none (scanner : Scanner) (ended : scanner.next.1 = none) : scanner.rest.1 = [] := by
  rw [rest]
  split
  next => rfl
  next token after taken =>
    rw [taken] at ended
    cases ended

theorem rest_some (scanner : Scanner) (token : Token) (taken : scanner.next.1 = some token) :
    scanner.rest.1 = token :: scanner.next.2.rest.1 := by
  rw [rest]
  split
  next after ended =>
    rw [ended] at taken
    cases taken
  next other after found =>
    rw [found] at taken ⊢
    obtain rfl := Option.some.inj taken
    rfl

theorem next_none (scanner after : Scanner) (ended : scanner.next = (none, after)) :
    Gap scanner.ahead [] := by
  have gap := skip_trivia_gap scanner
  unfold next at ended
  dsimp only at ended
  split at ended
  · cases ended
  · rename_i unseen
    rwa [ahead_nil _ unseen] at gap

theorem next_follows (scanner after : Scanner) (token : Token) (framed : scanner.limit ≤ scanner.source.size)
    (taken : scanner.next = (some token, after)) :
    token.Follows scanner.window scanner.position ∧ after.position = token.span.stop + 1 := by
  have begun := skip_trivia_moves scanner
  have gap := skip_trivia_gap scanner
  unfold next at taken
  dsimp only at taken
  split at taken
  · rename_i c seen
    have solid := skip_trivia_solid scanner c seen
    have forward := (token_moves _ c seen).2
    have within := token_within _ c seen
    have length : scanner.window.length = scanner.limit := by
      simp [window, framed]
    have same : scanner.skipTrivia.ahead = scanner.window.drop scanner.skipTrivia.position := by
      rw [ahead, moves_window scanner _ begun]
    rw [same] at gap solid
    obtain ⟨given, rfl⟩ := Prod.mk.inj taken
    obtain rfl := Option.some.inj given
    have limit := begun.limit
    refine ⟨⟨gap, solid, begun.forward, ?_, ?_⟩, ?_⟩
    · dsimp only
      omega
    · dsimp only
      omega
    · dsimp only
      omega
  · cases taken

theorem rest_spaced (scanner : Scanner) (framed : scanner.limit ≤ scanner.source.size) :
    Token.Spaced scanner.window scanner.position scanner.rest.1 := by
  fun_induction rest scanner with
  | case1 scanner after ended => exact next_none scanner after ended
  | case2 scanner token after taken tokens last same ih =>
      have moved := next_moves scanner
      rw [taken] at moved
      obtain ⟨follows, behind⟩ := next_follows scanner after token framed taken
      rw [same, behind, moves_window scanner after moved, moved.source, moved.limit] at ih
      exact ⟨follows, ih framed⟩

theorem tokens_between_gaps (scanner : Scanner) (span : Span) :
    let text := scanner.source.toList
    let tokens := (scanner.reset span).rest.1
    (scanner.reset span).Yields tokens (scanner.reset span).rest.2 ∧
      (∀ token ∈ tokens, span.start ≤ token.span.start ∧ token.span.start ≤ token.span.stop ∧
        token.span.stop ≤ span.stop ∧ token.span.stop < text.length) ∧
      (tokens.Pairwise fun first second => first.span.stop < second.span.start) ∧
      Token.Spaced (text.take (span.stop + 1)) span.start tokens := by
  intro text tokens
  have framed : (scanner.reset span).limit ≤ (scanner.reset span).source.size := Nat.min_le_right _ _
  have window : (scanner.reset span).window = text.take (span.stop + 1) := by
    have whole : scanner.source.size = text.length := by simp [text]
    simp only [Scanner.window, reset, whole, ← List.take_take, List.take_length, text]
  have covered : (text.take (span.stop + 1)).length ≤ scanner.source.size := by
    rw [List.length_take]
    exact Nat.min_le_right _ _
  have held := rest_spaced (scanner.reset span) framed
  rw [window] at held
  have spaced := Token.spaced_beyond _ span.start scanner.source.size tokens covered held
  refine ⟨rest_yields (scanner.reset span), ?_, Token.spaced_apart _ _ tokens spaced, spaced⟩
  intro token member
  have bounds := Token.spaced_within _ _ tokens spaced token member
  rw [List.length_take] at bounds
  omega

end Scanner

end JavaDiagnostics
