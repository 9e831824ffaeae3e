import JavaDiagnostics.Proofs.Source.Tokens
import JavaDiagnostics.Source.Anchor

/-!
What a scanner is asked depends on its text alone: every search begins with a window of its own, so the
position and the limit that an earlier search has left play no part, and no search changes the text. Of
the window a search sees the tokens and nothing else.
-/

set_option autoImplicit false

namespace JavaDiagnostics

structure Reads {α : Type} (query : Scanner → α × Scanner) : Prop where
  answer : ∀ a b : Scanner, a.source = b.source → (query a).1 = (query b).1
  source : ∀ scanner : Scanner, (query scanner).2.source = scanner.source

theorem reads_answer {α : Type} (a : α) : Reads fun scanner => (a, scanner) :=
  ⟨fun _ _ _ => rfl, fun _ => rfl⟩

theorem reads_map {α β : Type} {query : Scanner → α × Scanner} (reads : Reads query) (f : α → β) :
    Reads fun scanner => (f (query scanner).1, (query scanner).2) :=
  ⟨fun a b same => congrArg f (reads.answer a b same), reads.source⟩

theorem reads_then {α β : Type} {query : Scanner → α × Scanner} {next : α → Scanner → β × Scanner}
    (first : Reads query) (second : ∀ a, Reads (next a)) :
    Reads fun scanner => next (query scanner).1 (query scanner).2 := by
  constructor
  · intro a b same
    have behind : (query a).2.source = (query b).2.source := by
      rw [first.source a, first.source b, same]
    have answers := (second (query a).1).answer (query a).2 (query b).2 behind
    rw [← first.answer a b same]
    exact answers
  · intro scanner
    exact ((second (query scanner).1).source (query scanner).2).trans (first.source scanner)

theorem reset_same (a b : Scanner) (window : Span) (same : a.source = b.source) :
    a.reset window = b.reset window := by
  simp only [Scanner.reset, same]

def Sight.through {σ α : Type} (look : σ → Token → Sight σ α) : σ → List Token → Option α
  | _, [] => none
  | state, token :: rest =>
      match look state token with
      | .found answer => some answer
      | .goOn next => through look next rest

theorem search_tokens {σ α : Type} (look : σ → Token → Sight σ α) (state : σ) (scanner : Scanner) :
    (scanner.search look state).1 = Sight.through look state scanner.rest.1 := by
  fun_induction Scanner.search look state scanner with
  | case1 state scanner after ended =>
      rw [Scanner.rest_none scanner (congrArg Prod.fst ended)]
      rfl
  | case2 state scanner token after taken answer stopped =>
      rw [Scanner.rest_some scanner token (congrArg Prod.fst taken), Sight.through, stopped]
  | case3 state scanner token after taken next onward ih =>
      rw [Scanner.rest_some scanner token (congrArg Prod.fst taken), Sight.through, onward, taken]
      exact ih

theorem search_reads {σ α : Type} (look : σ → Token → Sight σ α) (state : σ) (window : Span) :
    Reads fun scanner => (scanner.reset window).search look state := by
  constructor
  · intro a b same
    rw [reset_same a b window same]
  · intro scanner
    exact (Scanner.search_moves look state (scanner.reset window)).source

theorem closing_reads (start : Nat) : Reads (Scanner.closing · start) := by
  constructor
  · intro a b same
    simp only [Scanner.closing, same]
    split
    · rfl
    · rw [reset_same a b _ same]
  · intro scanner
    simp only [Scanner.closing]
    split
    · rfl
    · exact (search_reads Brackets.closing 0 _).source scanner

theorem after_opening_reads (window : Span) : Reads (Scanner.afterOpening · window) :=
  search_reads Brackets.afterOpening false window

theorem before_closing_reads (window : Span) : Reads (Scanner.beforeClosing · window) :=
  reads_map (search_reads Brackets.beforeClosing (0, none) window) Option.join

namespace Anchor

theorem span_reads (anchor : Anchor) : Reads (Anchor.span · anchor) := by
  cases anchor with
  | type range parameterized =>
      cases parameterized with
      | true =>
          exact reads_map (closing_reads range.stop)
            fun stop => if range.stop < stop then ⟨range.start, stop⟩ else range
      | false => exact reads_answer range
  | call range selector => exact reads_answer _
  | field range own => exact reads_answer own
  | declaration range own => exact reads_answer own
  | expression range => exact reads_answer range
  | name range => exact reads_answer range
  | qualified range segments => exact reads_answer range
  | allocation range created => exact reads_answer range

theorem enclosed_reads (window : Span) : Reads (Anchor.enclosed? · window) :=
  reads_then (after_opening_reads window) fun start? =>
    reads_map (before_closing_reads window) (stretch? start?)

theorem arguments_span_reads (anchor : Anchor) : Reads (Anchor.argumentsSpan · anchor) := by
  cases anchor with
  | allocation range created =>
      exact reads_map (enclosed_reads ⟨created.stop + 1, range.stop⟩) fun found => found.getD range
  | call range selector =>
      exact reads_map (enclosed_reads ⟨selector.stop + 1, range.stop⟩) fun found => found.getD range
  | expression range => exact reads_answer range
  | name range => exact reads_answer range
  | qualified range segments => exact reads_answer range
  | type range parameterized => exact reads_answer range
  | field range own => exact reads_answer range
  | declaration range own => exact reads_answer range

end Anchor

end JavaDiagnostics
