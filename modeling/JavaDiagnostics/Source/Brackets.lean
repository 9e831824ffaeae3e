import JavaDiagnostics.Source.Scanner

/-!
Searches of a scanner for brackets and parentheses. A search takes tokens of its window until it has an
answer or the window has no more; every search but the bare run over a window moves the window first.
-/

set_option autoImplicit false

namespace JavaDiagnostics

-- What a search makes of a token: it goes on in a new state, or it ends.
inductive Sight (σ α : Type) where
  | goOn (state : σ)
  | found (answer : α)

namespace Scanner

def search {σ α : Type} (look : σ → Token → Sight σ α) (state : σ) (scanner : Scanner) :
    Option α × Scanner :=
  match _taken : scanner.next with
  | (none, after) => (none, after)
  | (some token, after) =>
      match look state token with
      | .found answer => (some answer, after)
      | .goOn state => search look state after
termination_by scanner.limit - scanner.position
decreasing_by
  have progress := next_progress scanner after token _taken
  omega

def rest (scanner : Scanner) : List Token × Scanner :=
  match _taken : scanner.next with
  | (none, after) => ([], after)
  | (some token, after) =>
      let (tokens, last) := rest after
      (token :: tokens, last)
termination_by scanner.limit - scanner.position
decreasing_by
  have progress := next_progress scanner after token _taken
  omega

theorem search_moves {σ α : Type} (look : σ → Token → Sight σ α) (state : σ) (scanner : Scanner) :
    Moves scanner (scanner.search look state).2 := by
  fun_induction search look state scanner with
  | case1 state scanner after taken =>
      have moved := next_moves scanner
      rwa [taken] at moved
  | case2 state scanner token after taken answer stopped =>
      have moved := next_moves scanner
      rwa [taken] at moved
  | case3 state scanner token after taken next onward ih =>
      have moved := next_moves scanner
      rw [taken] at moved
      exact moved.trans ih

end Scanner

namespace Brackets

-- Looks for the bracket that closes the type arguments, `depth` of them being open. A brace ends the
-- search without one.
def closing (depth : Nat) (token : Token) : Sight Nat (Option Nat) :=
  match token.kind with
  | .less => .goOn (depth + 1)
  | .greater => if depth ≤ 1 then .found (some token.span.stop) else .goOn (depth - 1)
  | .openBrace => .found none
  | _ => .goOn depth

-- Looks for the token after the first opening parenthesis; the flag says that this has been met.
def afterOpening (opened : Bool) (token : Token) : Sight Bool Nat :=
  if opened then .found token.span.start else .goOn (token.kind = .openParen)

-- Looks for the parenthesis that closes the first one, `depth` of them being open, and keeps the stop
-- of the token before it if there is one.
def beforeClosing (state : Nat × Option Nat) (token : Token) : Sight (Nat × Option Nat) (Option Nat) :=
  let (depth, last) := state
  let behind := if depth = 0 then last else some token.span.stop
  match token.kind with
  | .openParen => .goOn (depth + 1, behind)
  | .closeParen =>
      if depth = 1 then .found last else .goOn (depth - 1, behind)
  | _ => .goOn (depth, behind)

def firstIdentifier (_ : Unit) (token : Token) : Sight Unit Span :=
  if token.kind = .identifier then .found token.span else .goOn ()

end Brackets

namespace Scanner

def closing (scanner : Scanner) (start : Nat) : Nat × Scanner :=
  if scanner.source.size = 0 then (start, scanner)
  else
    let (found, after) := (scanner.reset ⟨start, scanner.source.size - 1⟩).search Brackets.closing 0
    (found.join.getD start, after)

def afterOpening (scanner : Scanner) (window : Span) : Option Nat × Scanner :=
  (scanner.reset window).search Brackets.afterOpening false

def beforeClosing (scanner : Scanner) (window : Span) : Option Nat × Scanner :=
  let (found, after) := (scanner.reset window).search Brackets.beforeClosing (0, none)
  (found.join, after)

def firstIdentifier (scanner : Scanner) (window : Span) : Option Span × Scanner :=
  (scanner.reset window).search Brackets.firstIdentifier ()

end Scanner

end JavaDiagnostics
