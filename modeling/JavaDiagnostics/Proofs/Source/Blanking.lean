import JavaDiagnostics.Proofs.Source.Locality
import JavaDiagnostics.Proofs.Source.Reading

/-!
The tokens of a window stay what they are when every character of the window that no token holds gives way to a
blank.
-/

set_option autoImplicit false

namespace JavaDiagnostics

namespace Scanner

def blanked (scanner : Scanner) (span : Span) : Scanner :=
  let tokens := (scanner.reset span).rest.1
  { scanner with source := scanner.source.mapIdx fun offset c =>
      if span.contains offset && !tokens.any (·.span.contains offset) then ' ' else c }

theorem peek_window (scanner : Scanner) (i : Nat) : scanner.peek i = scanner.window[scanner.position + i]? := by
  rw [peek_ahead, ahead, List.getElem?_drop]

theorem skip_trivia_blanks (scanner : Scanner) (count : Nat)
    (blank : ∀ i < count, scanner.peek i = some ' ') :
    scanner.skipTrivia = (scanner.advance count).skipTrivia := by
  induction count generalizing scanner with
  | zero => rfl
  | succ count ih =>
      have behind : ∀ i < count, (scanner.advance 1).peek i = some ' ' := by
        intro i small
        rw [advance_peek]
        exact blank (1 + i) (by omega)
      have white : Text.isBlank ' ' = true := by decide
      rw [skip_trivia_eq, blank 0 (Nat.succ_pos count)]
      simp only [white, if_true]
      rw [ih (scanner.advance 1) behind, advance, advance, advance, Nat.add_assoc, Nat.add_comm 1]

-- A blank in place of what follows its first character makes no comment of a text that begins with none.
theorem solid_echoes (clear : Nat) (a b : Scanner) (begun : a.position < clear) (echoes : Echoes clear a b)
    (solid : Solid a.ahead) : Solid b.ahead := by
  obtain ⟨c, here, dark, code⟩ := solid
  rw [← peek_ahead] at here code
  refine ⟨c, ?_, dark, ?_⟩
  · rw [← peek_ahead, echoes.clear 0 begun, here]
  · rw [← peek_ahead]
    rcases echoes 1 with same | ⟨_, _, blank⟩
    · rwa [same]
    · rw [blank]
      simp

structure Veiled (tokens : List Token) (a b : Scanner) : Prop extends Abreast 0 a b where
  shown : ∀ offset, ∀ token ∈ tokens, token.span.contains offset = true →
    b.window[offset]? = a.window[offset]?
  hidden : ∀ offset, a.position ≤ offset → offset < a.limit →
    (∀ token ∈ tokens, token.span.contains offset = false) → b.window[offset]? = some ' '

theorem veiled_blanks (tokens : List Token) (a b : Scanner) (veiled : Veiled tokens a b) (stop : Nat)
    (within : stop ≤ a.limit) (later : ∀ token ∈ tokens, stop ≤ token.span.start) :
    b.skipTrivia = (b.advance (stop - a.position)).skipTrivia := by
  apply skip_trivia_blanks
  intro i small
  have position : a.position = b.position := veiled.position
  rw [peek_window]
  apply veiled.hidden
  · omega
  · omega
  · intro token member
    have behind := later token member
    simp only [Span.contains, Bool.and_eq_false_iff, decide_eq_false_iff_not]
    omega

theorem peek_beyond (scanner : Scanner) (i : Nat) (beyond : scanner.limit ≤ scanner.position + i) :
    scanner.peek i = none := if_neg (Nat.not_lt_of_le beyond)

theorem peek_visible (scanner : Scanner) (i : Nat) (framed : scanner.limit ≤ scanner.source.size)
    (within : scanner.position + i < scanner.limit) : scanner.peek i ≠ none := by
  rw [peek, if_pos within, Array.getElem?_eq_getElem (Nat.lt_of_lt_of_le within framed)]
  exact Option.some_ne_none _

-- Where the first scanner has reached a token, the second one, as far on, sees the characters of the token
-- and no more than blanks in place of what follows.
theorem veiled_echoes (first : Token) (later : List Token) (a b c : Scanner) (moved : Moves a c)
    (framed : a.limit ≤ a.source.size) (veiled : Veiled (first :: later) a b)
    (start : c.position = first.span.start) :
    Echoes (first.span.stop + 1) c (b.advance (c.position - a.position)) := by
  intro i
  have position : a.position = b.position := veiled.position
  have limit : a.limit = b.limit := veiled.limit
  have forward := moved.forward
  have place : (b.advance (c.position - a.position)).position + i = c.position + i := by
    simp only [advance]
    omega
  by_cases within : c.position + i < c.limit
  · by_cases held : ∃ token ∈ first :: later, token.span.contains (c.position + i) = true
    · obtain ⟨token, member, contains⟩ := held
      left
      rw [peek_window, peek_window, place, moves_window a c moved]
      exact veiled.shown _ token member contains
    · have free : ∀ token ∈ first :: later, token.span.contains (c.position + i) = false :=
        fun token member => Bool.eq_false_iff.mpr fun contains => held ⟨token, member, contains⟩
      have ended := free first List.mem_cons_self
      simp only [Span.contains, Bool.and_eq_false_iff, decide_eq_false_iff_not] at ended
      refine .inr ⟨by omega, peek_visible c i (by rwa [moved.limit, moved.source]) within, ?_⟩
      rw [peek_window, place]
      exact veiled.hidden _ (by omega) (by rwa [← moved.limit]) free
  · left
    rw [peek_beyond c i (by omega), peek_beyond]
    rw [place, show (b.advance (c.position - a.position)).limit = b.limit from rfl, ← limit, ← moved.limit]
    omega

theorem veiled_trivia (first : Token) (later : List Token) (a b after : Scanner)
    (framed : a.limit ≤ a.source.size) (taken : a.next = (some first, after))
    (beyond : ∀ token ∈ later, first.span.stop + 1 ≤ token.span.start)
    (veiled : Veiled (first :: later) a b) :
    b.skipTrivia = b.advance (a.skipTrivia.position - a.position) := by
  have begun := skip_trivia_moves a
  obtain ⟨follows, _⟩ := next_follows a after first framed taken
  have start := (next_start a first (congrArg Prod.fst taken)).symm
  have order := follows.nonempty
  have within : first.span.stop < a.limit := follows.within.trans_le (List.length_take_le _ _)
  have solid : Solid a.skipTrivia.ahead := by
    rw [ahead, moves_window a _ begun, start]
    exact follows.solid
  rw [veiled_blanks (first :: later) a b veiled a.skipTrivia.position]
  · have echoes := veiled_echoes first later a b a.skipTrivia begun framed veiled start
    exact skip_trivia_stays _ (.inr (solid_echoes _ a.skipTrivia _ (by omega) echoes solid))
  · omega
  · intro token member
    rcases List.mem_cons.mp member with rfl | further
    · exact Nat.le_of_eq start
    · have apart := beyond token further
      omega

theorem veiled_next (first : Token) (later : List Token) (a b after : Scanner)
    (framed : a.limit ≤ a.source.size) (taken : a.next = (some first, after))
    (beyond : ∀ token ∈ later, first.span.stop + 1 ≤ token.span.start)
    (veiled : Veiled (first :: later) a b) :
    b.next.1 = some first ∧ Veiled later after b.next.2 := by
  have begun := skip_trivia_moves a
  obtain ⟨follows, behind⟩ := next_follows a after first framed taken
  have start := (next_start a first (congrArg Prod.fst taken)).symm
  have stays := veiled_trivia first later a b after framed taken beyond veiled
  have position : a.position = b.position := veiled.position
  have forward := begun.forward
  have reached : Abreast 0 a.skipTrivia b.skipTrivia := by
    rw [stays]
    refine ⟨?_, begun.limit.trans veiled.limit⟩
    simp only [advance]
    omega
  have echoes := veiled_echoes first later a b a.skipTrivia begun framed veiled start
  rw [← stays] at echoes
  obtain ⟨given, left⟩ := next_abreast 0 a b reached (by rw [taken, behind]; exact echoes)
  have moved := next_moves a
  rw [taken] at given left moved
  obtain ⟨same, found, rfl⟩ := Option.map_eq_some_iff.mp given.symm
  refine ⟨found, left, ?_, ?_⟩
  · intro offset token member contains
    rw [moves_window b _ (next_moves b), moves_window a _ moved]
    exact veiled.shown offset token (List.mem_cons_of_mem _ member) contains
  · intro offset ahead within free
    rw [moves_window b _ (next_moves b)]
    have order := follows.behind.trans follows.nonempty
    refine veiled.hidden offset (by omega) (by rwa [← moved.limit]) fun token member => ?_
    rcases List.mem_cons.mp member with rfl | further
    · simp only [Span.contains, Bool.and_eq_false_iff, decide_eq_false_iff_not]
      omega
    · exact free token further

theorem veiled_ended (a b : Scanner) (veiled : Veiled [] a b) : b.next.1 = none := by
  have position : a.position = b.position := veiled.position
  have limit : a.limit = b.limit := veiled.limit
  have ended : (b.advance (a.limit - a.position)).peek 0 = none := by
    apply peek_beyond
    simp only [advance]
    omega
  have stays : b.skipTrivia = b.advance (a.limit - a.position) := by
    rw [veiled_blanks [] a b veiled a.limit (Nat.le_refl _) (by simp)]
    exact skip_trivia_stays _ (.inl (ahead_nil _ ended))
  unfold next
  dsimp only
  rw [stays, ended]

theorem rest_veiled (a b : Scanner) (framed : a.limit ≤ a.source.size) (veiled : Veiled a.rest.1 a b) :
    b.rest.1 = a.rest.1 := by
  fun_induction rest a generalizing b with
  | case1 a after ended => exact rest_none b (veiled_ended a b veiled)
  | case2 a token after taken tokens last same ih =>
      have moved := next_moves a
      rw [taken] at moved
      have spaced := rest_spaced a framed
      rw [rest_some a token (congrArg Prod.fst taken), taken, same] at spaced
      have beyond := fun later member => (Token.spaced_within _ _ tokens spaced.2 later member).1
      obtain ⟨found, onward⟩ := veiled_next token tokens a b after framed taken beyond veiled
      rw [same] at ih
      rw [rest_some b token found, ih b.next.2 (by rwa [moved.limit, moved.source]) onward]

theorem blanked_window (scanner : Scanner) (span : Span) (offset : Nat) :
    ((scanner.blanked span).reset span).window[offset]? =
      (scanner.reset span).window[offset]?.map fun c =>
        if span.contains offset && !(scanner.reset span).rest.1.any (·.span.contains offset) then ' ' else c := by
  rw [reset_window, reset_window, List.getElem?_take, List.getElem?_take]
  split
  · rw [Array.getElem?_toList, Array.getElem?_toList, blanked, Array.getElem?_mapIdx]
  · rfl

theorem blanked_veiled (scanner : Scanner) (span : Span) :
    Veiled (scanner.reset span).rest.1 (scanner.reset span) ((scanner.blanked span).reset span) := by
  refine ⟨⟨?_, ?_⟩, ?_, ?_⟩
  · simp [reset, blanked]
  · simp [reset, blanked]
  · intro offset token member contains
    have held : (scanner.reset span).rest.1.any (·.span.contains offset) = true :=
      List.any_eq_true.mpr ⟨token, member, contains⟩
    simp [blanked_window, held]
  · intro offset ahead within free
    have bounds : min span.start scanner.source.size ≤ offset ∧
        offset < min (span.stop + 1) scanner.source.size := ⟨ahead, within⟩
    have inside : span.contains offset = true := by
      simp only [Span.contains, Bool.and_eq_true, decide_eq_true_eq]
      omega
    have held : (scanner.reset span).rest.1.any (·.span.contains offset) = false := by
      rw [List.any_eq_false]
      intro token member
      exact Bool.eq_false_iff.mp (free token member)
    have visible : offset < (scanner.reset span).window.length := by
      rw [reset_window, List.length_take, Array.length_toList]
      omega
    simp [blanked_window, inside, held, visible]

theorem blanked_tokens (scanner : Scanner) (span : Span) :
    ((scanner.blanked span).reset span).rest.1 = (scanner.reset span).rest.1 :=
  rest_veiled _ _ (Nat.min_le_right _ _) (blanked_veiled scanner span)

theorem extract_ext (first second : Scanner) (span : Span)
    (agree : ∀ offset, span.contains offset = true → first.source[offset]? = second.source[offset]?) :
    first.extract span = second.extract span := by
  apply List.ext_getElem?
  intro i
  rw [extract, extract, List.getElem?_drop, List.getElem?_drop, List.getElem?_take, List.getElem?_take]
  split
  next within =>
    rw [Array.getElem?_toList, Array.getElem?_toList]
    apply agree
    simp only [Span.contains, Bool.and_eq_true, decide_eq_true_eq]
    omega
  next => rfl

theorem comments_worth_blanks (scanner : Scanner) (span : Span) :
    ((scanner.blanked span).reset span).rest.1 = (scanner.reset span).rest.1 ∧
      ∀ other : Scanner,
        (∀ offset, span.contains offset = true →
          (other.blanked span).source[offset]? = (scanner.blanked span).source[offset]?) →
        (other.reset span).rest.1 = (scanner.reset span).rest.1 ∧
          (other.afterOpening span).1 = (scanner.afterOpening span).1 ∧
          (other.beforeClosing span).1 = (scanner.beforeClosing span).1 ∧
          (other.firstIdentifier span).1 = (scanner.firstIdentifier span).1 := by
  refine ⟨blanked_tokens scanner span, fun other agree => ?_⟩
  have tokens : (other.reset span).rest.1 = (scanner.reset span).rest.1 := by
    rw [← blanked_tokens other span, ← blanked_tokens scanner span, window_tokens, window_tokens,
      extract_ext _ _ span agree]
  have found : ∀ {σ α : Type} (look : σ → Token → Sight σ α) (state : σ),
      ((other.reset span).search look state).1 = ((scanner.reset span).search look state).1 := by
    intro σ α look state
    rw [search_tokens, search_tokens, tokens]
  exact ⟨tokens, found Brackets.afterOpening false, congrArg Option.join (found Brackets.beforeClosing (0, none)),
    found Brackets.firstIdentifier ()⟩

theorem hidden_parenthesis :
    let scanner := ofText "f /* ( */ (a)".toList
    let other := ofText "f // ))\r  (a)".toList
    let span : Span := ⟨0, 12⟩
    (∀ offset, span.contains offset = true →
        (other.blanked span).source[offset]? = (scanner.blanked span).source[offset]?) ∧
      (other.afterOpening span).1 = (scanner.afterOpening span).1 ∧
      (scanner.afterOpening span).1 = some 11 := by
  intro scanner other span
  have same : (other.blanked span).source = (scanner.blanked span).source := by decide +kernel
  have agree : ∀ offset, span.contains offset = true →
      (other.blanked span).source[offset]? = (scanner.blanked span).source[offset]? :=
    fun _ _ => by rw [same]
  obtain ⟨_, answers⟩ := comments_worth_blanks scanner span
  exact ⟨agree, (answers other agree).2.1, by decide +kernel⟩

end Scanner

end JavaDiagnostics
