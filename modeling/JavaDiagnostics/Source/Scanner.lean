import JavaDiagnostics.Source.Token
import JavaDiagnostics.Text.Blank
import JavaDiagnostics.Text.Identifier

/-!
A scanner: a source text, a position in it and a limit that no look-ahead passes. White space and
comments lie between tokens; a literal that is not closed ends with its line, a comment with the window.
-/

set_option autoImplicit false

namespace JavaDiagnostics

structure Scanner where
  source : Array Char
  position : Nat
  limit : Nat

namespace Scanner

def empty : Scanner := ⟨#[], 0, 0⟩

def ofText (text : List Char) : Scanner := ⟨text.toArray, 0, text.length⟩

def reset (scanner : Scanner) (window : Span) : Scanner :=
  { scanner with
      position := min window.start scanner.source.size
      limit := min (window.stop + 1) scanner.source.size }

def peek (scanner : Scanner) (ahead : Nat) : Option Char :=
  if scanner.position + ahead < scanner.limit then scanner.source[scanner.position + ahead]? else none

def advance (scanner : Scanner) (count : Nat) : Scanner :=
  { scanner with position := scanner.position + count }

theorem peek_within {scanner : Scanner} {ahead : Nat} {c : Char} (seen : scanner.peek ahead = some c) :
    scanner.position + ahead < scanner.limit := by
  unfold peek at seen
  split at seen
  · assumption
  · cases seen

-- Whatever a scanner does short of a reset moves it forward in the same window of the same text.
structure Moves (before after : Scanner) : Prop where
  source : after.source = before.source
  limit : after.limit = before.limit
  forward : before.position ≤ after.position

theorem Moves.refl (scanner : Scanner) : Moves scanner scanner := ⟨rfl, rfl, Nat.le_refl _⟩

theorem Moves.trans {a b c : Scanner} (first : Moves a b) (second : Moves b c) : Moves a c :=
  ⟨second.source.trans first.source, second.limit.trans first.limit,
    Nat.le_trans first.forward second.forward⟩

theorem advance_moves (scanner : Scanner) (count : Nat) : Moves scanner (scanner.advance count) :=
  ⟨rfl, rfl, Nat.le_add_right _ _⟩

def skipWhile (accepts : Char → Bool) (scanner : Scanner) : Scanner :=
  match _seen : scanner.peek 0 with
  | some c => if accepts c then skipWhile accepts (scanner.advance 1) else scanner
  | none => scanner
termination_by scanner.limit - scanner.position
decreasing_by
  have within := peek_within _seen
  simp only [advance]
  omega

theorem skip_while_moves (accepts : Char → Bool) (scanner : Scanner) :
    Moves scanner (scanner.skipWhile accepts) := by
  fun_induction skipWhile accepts scanner with
  | case1 scanner c seen accepted ih => exact (advance_moves scanner 1).trans ih
  | case2 scanner c seen refused => exact .refl scanner
  | case3 scanner seen => exact .refl scanner

theorem skip_while_progress (accepts : Char → Bool) (scanner : Scanner) (c : Char)
    (seen : scanner.peek 0 = some c) (accepted : accepts c = true) :
    scanner.position < (scanner.skipWhile accepts).position := by
  have unfolded : scanner.skipWhile accepts = (scanner.advance 1).skipWhile accepts := by
    rw [skipWhile]
    split
    · rename_i other found
      have same : c = other := Option.some.inj (seen.symm.trans found)
      rw [if_pos (same ▸ accepted)]
    · rename_i absent
      rw [seen] at absent
      cases absent
  have moved := (skip_while_moves accepts (scanner.advance 1)).forward
  rw [unfolded]
  exact Nat.lt_of_succ_le moved

def skipComment (scanner : Scanner) : Scanner :=
  match _seen : scanner.peek 0 with
  | some c =>
      if c = '*' ∧ scanner.peek 1 = some '/' then scanner.advance 2 else skipComment (scanner.advance 1)
  | none => scanner
termination_by scanner.limit - scanner.position
decreasing_by
  have within := peek_within _seen
  simp only [advance]
  omega

theorem skip_comment_moves (scanner : Scanner) : Moves scanner scanner.skipComment := by
  fun_induction skipComment scanner with
  | case1 scanner c seen closed => exact advance_moves scanner 2
  | case2 scanner c seen opened ih => exact (advance_moves scanner 1).trans ih
  | case3 scanner seen => exact .refl scanner

def skipLineComment (scanner : Scanner) : Scanner := (scanner.advance 2).skipWhile (!Token.isLineEnd ·)

def skipBlockComment (scanner : Scanner) : Scanner := (scanner.advance 2).skipComment

theorem line_comment_forward (scanner : Scanner) :
    scanner.limit = scanner.skipLineComment.limit ∧
      scanner.position + 2 ≤ scanner.skipLineComment.position := by
  have moved := skip_while_moves (!Token.isLineEnd ·) (scanner.advance 2)
  exact ⟨moved.limit.symm, moved.forward⟩

theorem block_comment_forward (scanner : Scanner) :
    scanner.limit = scanner.skipBlockComment.limit ∧
      scanner.position + 2 ≤ scanner.skipBlockComment.position := by
  have moved := skip_comment_moves (scanner.advance 2)
  exact ⟨moved.limit.symm, moved.forward⟩

def skipTrivia (scanner : Scanner) : Scanner :=
  match _seen : scanner.peek 0 with
  | some c =>
      if Text.isBlank c then skipTrivia (scanner.advance 1)
      else if c = '/' ∧ scanner.peek 1 = some '/' then skipTrivia scanner.skipLineComment
      else if c = '/' ∧ scanner.peek 1 = some '*' then skipTrivia scanner.skipBlockComment
      else scanner
  | none => scanner
termination_by scanner.limit - scanner.position
decreasing_by
  all_goals have within := peek_within _seen
  · simp only [advance]
    omega
  · have moved := line_comment_forward scanner
    omega
  · have moved := block_comment_forward scanner
    omega

theorem skip_trivia_moves (scanner : Scanner) : Moves scanner scanner.skipTrivia := by
  fun_induction skipTrivia scanner with
  | case1 scanner c seen blank ih => exact (advance_moves scanner 1).trans ih
  | case2 scanner c seen solid comment ih =>
      exact (advance_moves scanner 2).trans ((skip_while_moves _ _).trans ih)
  | case3 scanner c seen solid code comment ih =>
      exact (advance_moves scanner 2).trans ((skip_comment_moves _).trans ih)
  | case4 scanner c seen solid code other => exact .refl scanner
  | case5 scanner seen => exact .refl scanner

-- The rest of a literal after its opening quote. A backslash takes the next character with it.
def skipQuoted (quote : Char) (scanner : Scanner) : Scanner :=
  match _seen : scanner.peek 0 with
  | some c =>
      if c = '\\' then skipQuoted quote (scanner.advance 2)
      else if c = quote ∨ Token.isLineEnd c then scanner.advance 1
      else skipQuoted quote (scanner.advance 1)
  | none => scanner
termination_by scanner.limit - scanner.position
decreasing_by
  all_goals
    have within := peek_within _seen
    simp only [advance]
    omega

theorem skip_quoted_moves (quote : Char) (scanner : Scanner) :
    Moves scanner (scanner.skipQuoted quote) := by
  fun_induction skipQuoted quote scanner with
  | case1 scanner seen ih => exact (advance_moves scanner 2).trans ih
  | case2 scanner c seen plain closed => exact advance_moves scanner 1
  | case3 scanner c seen plain opened ih => exact (advance_moves scanner 1).trans ih
  | case4 scanner seen => exact .refl scanner

-- A backslash at the end of the window leads no further than the window.
def clamp (scanner : Scanner) : Scanner :=
  { scanner with position := min scanner.position scanner.limit }

def token (scanner : Scanner) (c : Char) : TokenKind × Scanner :=
  match Token.punctuation? c with
  | some kind => (kind, scanner.advance 1)
  | none =>
      if c = '"' ∨ c = '\'' then (.literal, ((scanner.advance 1).skipQuoted c).clamp)
      else if Token.isDigit c then (.literal, scanner.skipWhile Token.isNumberPart)
      else if Text.Identifier.canStart c then (.identifier, scanner.skipWhile Text.Identifier.canContinue)
      else (.other, scanner.advance 1)

theorem token_moves (scanner : Scanner) (c : Char) (seen : scanner.peek 0 = some c) :
    Moves scanner (scanner.token c).2 ∧ scanner.position < (scanner.token c).2.position := by
  have one : Moves scanner (scanner.advance 1) ∧ scanner.position < (scanner.advance 1).position :=
    ⟨advance_moves scanner 1, Nat.lt_succ_self _⟩
  have within := peek_within seen
  unfold token
  split
  · exact one
  · split
    · have moved := (skip_quoted_moves c (scanner.advance 1))
      have forward : scanner.position + 1 ≤ ((scanner.advance 1).skipQuoted c).position := moved.forward
      have limit : ((scanner.advance 1).skipQuoted c).limit = scanner.limit := moved.limit
      refine ⟨⟨moved.source, limit, ?_⟩, ?_⟩
      · simp only [clamp]
        omega
      · simp only [clamp]
        omega
    · split
      · rename_i digit
        exact ⟨skip_while_moves _ scanner,
          skip_while_progress _ scanner c seen (Token.number_part_of_digit c digit)⟩
      · split
        · rename_i start
          exact ⟨skip_while_moves _ scanner,
            skip_while_progress _ scanner c seen (Text.Identifier.canContinue_of_canStart c start)⟩
        · exact one

def next (scanner : Scanner) : Option Token × Scanner :=
  let begun := scanner.skipTrivia
  match begun.peek 0 with
  | some c =>
      let (kind, after) := begun.token c
      (some ⟨kind, ⟨begun.position, after.position - 1⟩⟩, after)
  | none => (none, begun)

theorem next_moves (scanner : Scanner) : Moves scanner scanner.next.2 := by
  have begun := skip_trivia_moves scanner
  unfold next
  dsimp only
  split
  · rename_i c seen
    exact begun.trans (token_moves scanner.skipTrivia c seen).1
  · exact begun

theorem next_progress (scanner after : Scanner) (token : Token)
    (taken : scanner.next = (some token, after)) :
    after.limit = scanner.limit ∧ scanner.position < scanner.limit ∧ scanner.position < after.position := by
  have begun := skip_trivia_moves scanner
  unfold next at taken
  dsimp only at taken
  split at taken
  · rename_i c seen
    have within := peek_within seen
    have moved := token_moves scanner.skipTrivia c seen
    obtain ⟨-, rfl⟩ := Prod.mk.inj taken
    refine ⟨moved.1.limit.trans begun.limit, ?_, Nat.lt_of_le_of_lt begun.forward moved.2⟩
    have limit := begun.limit
    have forward := begun.forward
    omega
  · cases taken

end Scanner

end JavaDiagnostics
