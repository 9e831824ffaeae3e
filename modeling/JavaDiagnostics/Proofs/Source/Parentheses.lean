import JavaDiagnostics.Proofs.Source.Locality
import JavaDiagnostics.Proofs.Source.Reading

/-!
The two searches that look for the ends of an argument list mean the same pair of parentheses.
-/

set_option autoImplicit false

namespace JavaDiagnostics

namespace Token

inductive Balanced : List Token → Prop where
  | nothing : Balanced []
  | plain (token : Token) (rest : List Token) (unopened : token.kind ≠ .openParen)
      (unclosed : token.kind ≠ .closeParen) (more : Balanced rest) : Balanced (token :: rest)
  | nested (opener closer : Token) (inside rest : List Token) (opens : opener.kind = .openParen)
      (closes : closer.kind = .closeParen) (within : Balanced inside) (more : Balanced rest) :
      Balanced (opener :: (inside ++ closer :: rest))

inductive Encloses : List Token → List Token → Prop where
  | between (before inside behind : List Token) (opener closer : Token)
      (first : ∀ token ∈ before, token.kind ≠ .openParen) (opens : opener.kind = .openParen)
      (closes : closer.kind = .closeParen) (balanced : Balanced inside) :
      Encloses (before ++ opener :: (inside ++ closer :: behind)) inside

theorem Encloses.parts {tokens inside : List Token} (encloses : Encloses tokens inside) :
    ∃ before behind, tokens = before ++ inside ++ behind ∧ Balanced inside := by
  obtain ⟨before, inside, behind, opener, closer, _, _, _, balanced⟩ := encloses
  exact ⟨before ++ [opener], closer :: behind, by simp, balanced⟩

def lastStop (earlier : Option Nat) (tokens : List Token) : Option Nat :=
  tokens.foldl (fun _ token => some token.span.stop) earlier

theorem last_stop_cons (earlier : Option Nat) (token : Token) (rest : List Token) :
    lastStop earlier (token :: rest) = lastStop (some token.span.stop) rest := rfl

theorem last_stop_append (earlier : Option Nat) (front rest : List Token) :
    lastStop earlier (front ++ rest) = lastStop (lastStop earlier front) rest := List.foldl_append

theorem last_stop_last (tokens : List Token) : lastStop none tokens = tokens.getLast?.map (·.span.stop) := by
  induction tokens using List.reverseRecOn with
  | nil => rfl
  | append_singleton front last _ => simp [lastStop]

theorem first_opener (tokens : List Token) :
    (∀ token ∈ tokens, token.kind ≠ .openParen) ∨ ∃ before opener rest, tokens = before ++ opener :: rest ∧
      (∀ token ∈ before, token.kind ≠ .openParen) ∧ opener.kind = .openParen := by
  induction tokens with
  | nil => simp
  | cons token rest ih =>
      by_cases opens : token.kind = .openParen
      · exact .inr ⟨[], token, rest, rfl, by simp, opens⟩
      · rcases ih with absent | ⟨before, opener, behind, rfl, first, found⟩
        · exact .inl (List.forall_mem_cons.mpr ⟨opens, absent⟩)
        · exact .inr ⟨token :: before, opener, behind, rfl, List.forall_mem_cons.mpr ⟨opens, first⟩, found⟩

end Token

namespace Brackets

open Token

theorem after_opening_before (before rest : List Token) (first : ∀ token ∈ before, token.kind ≠ .openParen) :
    Sight.through afterOpening false (before ++ rest) = Sight.through afterOpening false rest := by
  induction before with
  | nil => rfl
  | cons token before ih =>
      obtain ⟨plain, later⟩ := List.forall_mem_cons.mp first
      have onward : afterOpening false token = .goOn false := by simp [afterOpening, plain]
      rw [List.cons_append, Sight.through, onward]
      exact ih later

theorem after_opening_opener (opener : Token) (rest : List Token) (opens : opener.kind = .openParen) :
    Sight.through afterOpening false (opener :: rest) = rest.head?.map (·.span.start) := by
  have onward : afterOpening false opener = .goOn true := by simp [afterOpening, opens]
  rw [Sight.through, onward]
  cases rest <;> rfl

theorem before_closing_before (before rest : List Token) (first : ∀ token ∈ before, token.kind ≠ .openParen) :
    Sight.through beforeClosing (0, none) (before ++ rest) = Sight.through beforeClosing (0, none) rest := by
  induction before with
  | nil => rfl
  | cons token before ih =>
      obtain ⟨plain, later⟩ := List.forall_mem_cons.mp first
      have onward : beforeClosing (0, none) token = .goOn (0, none) := by
        simp only [beforeClosing]
        split <;> simp_all
      rw [List.cons_append, Sight.through, onward]
      exact ih later

theorem before_closing_opener (depth : Nat) (earlier : Option Nat) (token : Token) (opens : token.kind = .openParen) :
    beforeClosing (depth + 1, earlier) token = .goOn (depth + 2, some token.span.stop) := by
  simp [beforeClosing, opens]

theorem before_closing_closer (depth : Nat) (earlier : Option Nat) (token : Token)
    (closes : token.kind = .closeParen) :
    beforeClosing (depth + 2, earlier) token = .goOn (depth + 1, some token.span.stop) := by
  simp [beforeClosing, closes]

theorem before_closing_last (earlier : Option Nat) (token : Token) (closes : token.kind = .closeParen) :
    beforeClosing (1, earlier) token = .found earlier := by
  simp [beforeClosing, closes]

theorem before_closing_plain (depth : Nat) (earlier : Option Nat) (token : Token)
    (unopened : token.kind ≠ .openParen) (unclosed : token.kind ≠ .closeParen) :
    beforeClosing (depth + 1, earlier) token = .goOn (depth + 1, some token.span.stop) := by
  simp only [beforeClosing]
  split <;> simp_all

theorem before_closing_balanced (inside rest : List Token) (balanced : Balanced inside) (depth : Nat)
    (earlier : Option Nat) :
    Sight.through beforeClosing (depth + 1, earlier) (inside ++ rest) =
      Sight.through beforeClosing (depth + 1, lastStop earlier inside) rest := by
  induction balanced generalizing rest depth earlier with
  | nothing => rfl
  | plain token more unopened unclosed _ ih =>
      rw [List.cons_append, Sight.through, before_closing_plain depth earlier token unopened unclosed]
      exact ih rest depth (some token.span.stop)
  | nested opener closer inside more opens closes _ _ within onward =>
      rw [List.cons_append, Sight.through, before_closing_opener depth earlier opener opens, List.append_assoc]
      dsimp only
      rw [within, List.cons_append, Sight.through, before_closing_closer depth _ closer closes]
      dsimp only
      rw [onward, last_stop_cons, last_stop_append, last_stop_cons]

theorem before_closing_matched (tokens : List Token) (depth : Nat) (earlier : Option Nat)
    (found : Sight.through beforeClosing (depth + 1, earlier) tokens ≠ none) :
    ∃ inside closer behind, tokens = inside ++ closer :: behind ∧ Balanced inside ∧
      closer.kind = .closeParen ∧
      (depth = 0 ∨ Sight.through beforeClosing (depth, some closer.span.stop) behind ≠ none) := by
  induction size : tokens.length using Nat.strong_induction_on generalizing tokens depth earlier with
  | h bound ih =>
      cases tokens with
      | nil => exact absurd rfl found
      | cons token rest =>
          rw [Sight.through] at found
          by_cases opens : token.kind = .openParen
          · rw [before_closing_opener depth earlier token opens] at found
            obtain ⟨inside, closer, behind, rfl, within, closes, more⟩ :=
              ih rest.length (by simp [← size]) rest (depth + 1) _ found rfl
            have again := more.resolve_left (Nat.succ_ne_zero depth)
            obtain ⟨others, last, behind, rfl, further, ends, left⟩ :=
              ih behind.length (by simp [← size]; omega) behind depth _ again rfl
            exact ⟨token :: (inside ++ closer :: others), last, behind, by simp,
              .nested token closer inside others opens closes within further, ends, left⟩
          · by_cases closes : token.kind = .closeParen
            · refine ⟨[], token, rest, rfl, .nothing, closes, ?_⟩
              cases depth with
              | zero => exact .inl rfl
              | succ depth =>
                  rw [before_closing_closer depth earlier token closes] at found
                  exact .inr found
            · rw [before_closing_plain depth earlier token opens closes] at found
              obtain ⟨inside, closer, behind, rfl, within, ends, left⟩ :=
                ih rest.length (by simp [← size]) rest depth _ found rfl
              exact ⟨token :: inside, closer, behind, rfl, .plain token inside opens closes within, ends, left⟩

theorem enclosed_ends (tokens inside : List Token) (encloses : Encloses tokens inside) :
    (∀ first ∈ inside.head?, Sight.through afterOpening false tokens = some first.span.start) ∧
      Sight.through beforeClosing (0, none) tokens = some (inside.getLast?.map (·.span.stop)) := by
  obtain ⟨before, inside, behind, opener, closer, first, opens, closes, balanced⟩ := encloses
  constructor
  · intro token head
    rw [after_opening_before before _ first, after_opening_opener opener _ opens, List.head?_append,
      Option.mem_def.mp head]
    rfl
  · have begun : beforeClosing (0, none) opener = .goOn (1, none) := by simp [beforeClosing, opens]
    rw [before_closing_before before _ first, Sight.through, begun]
    dsimp only
    rw [before_closing_balanced inside _ balanced, Sight.through, before_closing_last _ closer closes,
      last_stop_last]

theorem enclosed_of_found (tokens : List Token) (found : Sight.through beforeClosing (0, none) tokens ≠ none) :
    ∃ inside, Encloses tokens inside := by
  rcases first_opener tokens with absent | ⟨before, opener, rest, rfl, first, opens⟩
  · have nothing := before_closing_before tokens [] absent
    rw [List.append_nil] at nothing
    exact absurd nothing found
  · have begun : beforeClosing (0, none) opener = .goOn (1, none) := by simp [beforeClosing, opens]
    rw [before_closing_before before _ first, Sight.through, begun] at found
    obtain ⟨inside, closer, behind, rfl, balanced, closes, _⟩ := before_closing_matched rest 0 none found
    exact ⟨inside, .between before inside behind opener closer first opens closes balanced⟩

end Brackets

namespace Token

theorem between_ends (tokens : List Token) (first last : Token)
    (apart : tokens.Pairwise fun a b => a.span.stop < b.span.start)
    (nonempty : ∀ token ∈ tokens, token.span.start ≤ token.span.stop)
    (head : first ∈ tokens.head?) (tail : last ∈ tokens.getLast?) :
    ∀ token ∈ tokens, first.span.start ≤ token.span.start ∧ token.span.stop ≤ last.span.stop := by
  intro token member
  constructor
  · obtain ⟨rest, rfl⟩ := List.head?_eq_some_iff.mp head
    rcases List.mem_cons.mp member with rfl | later
    · exact Nat.le_refl _
    · have order := (List.pairwise_cons.mp apart).1 token later
      have bounds := nonempty first List.mem_cons_self
      omega
  · obtain ⟨front, rfl⟩ := List.getLast?_eq_some_iff.mp tail
    rcases List.mem_append.mp member with earlier | same
    · have order := (List.pairwise_append.mp apart).2.2 token earlier last (List.mem_singleton_self last)
      have bounds := nonempty last (List.mem_append_right _ (List.mem_singleton_self last))
      omega
    · rw [List.mem_singleton.mp same]

theorem between_filter (before inside behind : List Token) (first last : Token)
    (apart : (before ++ inside ++ behind).Pairwise fun a b => a.span.stop < b.span.start)
    (nonempty : ∀ token ∈ before ++ inside ++ behind, token.span.start ≤ token.span.stop)
    (head : first ∈ inside.head?) (tail : last ∈ inside.getLast?) :
    (before ++ inside ++ behind).filter (Span.encloses ⟨first.span.start, last.span.stop⟩ ·.span) = inside := by
  obtain ⟨front, _, ends⟩ := List.pairwise_append.mp apart
  obtain ⟨_, own, begins⟩ := List.pairwise_append.mp front
  have earlier : before.filter (Span.encloses ⟨first.span.start, last.span.stop⟩ ·.span) = [] := by
    rw [List.filter_eq_nil_iff]
    intro token member
    have order := begins token member first (List.mem_of_mem_head? head)
    have bounds := nonempty token (List.mem_append_left _ (List.mem_append_left _ member))
    simp only [Span.encloses, Bool.and_eq_true, decide_eq_true_eq]
    omega
  have later : behind.filter (Span.encloses ⟨first.span.start, last.span.stop⟩ ·.span) = [] := by
    rw [List.filter_eq_nil_iff]
    intro token member
    have order := ends last (List.mem_append_right _ (List.mem_of_mem_getLast? tail)) token member
    have bounds := nonempty token (List.mem_append_right _ member)
    simp only [Span.encloses, Bool.and_eq_true, decide_eq_true_eq]
    omega
  have kept : inside.filter (Span.encloses ⟨first.span.start, last.span.stop⟩ ·.span) = inside := by
    rw [List.filter_eq_self]
    intro token member
    have bounds := between_ends inside first last own
      (fun token member => nonempty token (List.mem_append_left _ (List.mem_append_right _ member)))
      head tail token member
    simpa [Span.encloses] using bounds
  rw [List.filter_append, List.filter_append, earlier, later, kept, List.nil_append, List.append_nil]

end Token

namespace Scanner

theorem reset_apart (scanner : Scanner) (window : Span) :
    (scanner.reset window).rest.1.Pairwise fun a b => a.span.stop < b.span.start :=
  Token.spaced_apart _ _ _ (rest_spaced _ (Nat.min_le_right _ _))

theorem reset_bounds (scanner : Scanner) (window : Span) : ∀ token ∈ (scanner.reset window).rest.1,
    window.start ≤ token.span.start ∧ token.span.start ≤ token.span.stop ∧
      token.span.stop ≤ window.stop ∧ token.span.stop < scanner.source.size := by
  intro token member
  have bounds := Token.spaced_within _ _ _ (rest_spaced _ (Nat.min_le_right _ _)) token member
  rw [reset_window, List.length_take, Array.length_toList] at bounds
  have position : (scanner.reset window).position = min window.start scanner.source.size := rfl
  omega

theorem after_opening_tokens (scanner : Scanner) (window : Span) :
    (scanner.afterOpening window).1 = Sight.through Brackets.afterOpening false (scanner.reset window).rest.1 :=
  search_tokens Brackets.afterOpening false _

theorem before_closing_tokens (scanner : Scanner) (window : Span) :
    (scanner.beforeClosing window).1 =
      (Sight.through Brackets.beforeClosing (0, none) (scanner.reset window).rest.1).join :=
  congrArg Option.join (search_tokens Brackets.beforeClosing (0, none) _)

theorem before_closing_behind (scanner : Scanner) (window : Span) :
    ((scanner.afterOpening window).2.beforeClosing window).1 = (scanner.beforeClosing window).1 :=
  (before_closing_reads window).answer _ _ ((after_opening_reads window).source scanner)

structure Intact (scanner : Scanner) (window span : Span) : Prop where
  order : span.start ≤ span.stop
  within : window.start ≤ span.start ∧ span.stop ≤ window.stop
  visible : span.stop < scanner.source.size
  balanced : Token.Balanced ((scanner.reset window).rest.1.filter (span.encloses ·.span))

theorem enclosed_intact (scanner : Scanner) (window : Span) (inside : List Token) (first last : Token)
    (encloses : Token.Encloses (scanner.reset window).rest.1 inside)
    (head : first ∈ inside.head?) (tail : last ∈ inside.getLast?) :
    Intact scanner window ⟨first.span.start, last.span.stop⟩ := by
  have apart := reset_apart scanner window
  have bounds := reset_bounds scanner window
  obtain ⟨before, behind, whole, balanced⟩ := encloses.parts
  rw [whole] at apart bounds
  have nonempty := fun token member => (bounds token member).2.1
  have member : ∀ token ∈ inside, token ∈ before ++ inside ++ behind :=
    fun token found => List.mem_append_left _ (List.mem_append_right _ found)
  have begins := bounds first (member first (List.mem_of_mem_head? head))
  have ends := bounds last (member last (List.mem_of_mem_getLast? tail))
  have own : inside.Pairwise fun a b => a.span.stop < b.span.start :=
    (List.pairwise_append.mp (List.pairwise_append.mp apart).1).2.1
  have order := Token.between_ends inside first last own
    (fun token found => nonempty token (member token found)) head tail last (List.mem_of_mem_getLast? tail)
  refine ⟨order.1.trans ends.2.1, ⟨begins.1, ends.2.2.1⟩, ends.2.2.2, ?_⟩
  rw [whole, Token.between_filter before inside behind first last apart nonempty head tail]
  exact balanced

theorem enclosed_found (scanner : Scanner) (window : Span) (start stop : Nat)
    (begins : (scanner.afterOpening window).1 = some start)
    (ends : (scanner.beforeClosing window).1 = some stop) :
    ∃ inside first last, Token.Encloses (scanner.reset window).rest.1 inside ∧ first ∈ inside.head? ∧
      last ∈ inside.getLast? ∧ start = first.span.start ∧ stop = last.span.stop := by
  rw [after_opening_tokens] at begins
  rw [before_closing_tokens] at ends
  obtain ⟨inside, encloses⟩ := Brackets.enclosed_of_found _ fun nothing => by
    rw [nothing] at ends
    cases ends
  obtain ⟨heads, tails⟩ := Brackets.enclosed_ends _ inside encloses
  rw [tails, Option.join_some, Option.map_eq_some_iff] at ends
  obtain ⟨last, tail, rfl⟩ := ends
  cases inside with
  | nil => cases tail
  | cons first rest =>
      rw [heads first rfl] at begins
      exact ⟨first :: rest, first, last, encloses, rfl, tail, (Option.some.inj begins).symm, rfl⟩

end Scanner

namespace Anchor

theorem enclosed_eq (scanner : Scanner) (window : Span) :
    (enclosed? scanner window).1 = stretch? (scanner.afterOpening window).1 (scanner.beforeClosing window).1 :=
  congrArg (stretch? _) (scanner.before_closing_behind window)

theorem stretch_some (start? stop? : Option Nat) (span : Span) (found : stretch? start? stop? = some span) :
    start? = some span.start ∧ stop? = some span.stop := by
  cases start? with
  | none => cases found
  | some start =>
      cases stop? with
      | none => cases found
      | some stop =>
          simp only [stretch?, Option.bind_eq_bind, Option.bind_some] at found
          split at found
          · cases found
            exact ⟨rfl, rfl⟩
          · cases found

theorem arguments_between_parentheses (scanner : Scanner) (anchor : Anchor) (range known : Span)
    (shape : anchor = .allocation range known ∨ anchor = .call range known) :
    let window : Span := ⟨known.stop + 1, range.stop⟩
    let tokens := (scanner.reset window).rest.1
    let span := (anchor.argumentsSpan scanner).1
    (∀ inside, Token.Encloses tokens inside → ∀ first ∈ inside.head?, ∀ last ∈ inside.getLast?,
        span = ⟨first.span.start, last.span.stop⟩ ∧ scanner.Intact window span) ∧
      ((∀ inside, Token.Encloses tokens inside → inside = []) → span = range) ∧
      ∀ start stop, (scanner.afterOpening window).1 = some start →
        ((scanner.afterOpening window).2.beforeClosing window).1 = some stop → start ≤ stop := by
  intro window tokens span
  have given : span = (stretch? (scanner.afterOpening window).1 (scanner.beforeClosing window).1).getD range := by
    rw [← enclosed_eq]
    rcases shape with rfl | rfl <;> rfl
  refine ⟨?_, ?_, ?_⟩
  · intro inside encloses first head last tail
    have intact := scanner.enclosed_intact window inside first last encloses head tail
    obtain ⟨heads, tails⟩ := Brackets.enclosed_ends tokens inside encloses
    have stretch : span = ⟨first.span.start, last.span.stop⟩ := by
      rw [given, scanner.after_opening_tokens, scanner.before_closing_tokens, heads first head, tails,
        Option.mem_def.mp tail]
      exact congrArg (Option.getD · range) (if_pos intact.order)
    exact ⟨stretch, stretch ▸ intact⟩
  · intro empty
    cases found : stretch? (scanner.afterOpening window).1 (scanner.beforeClosing window).1 with
    | none => rw [given, found, Option.getD_none]
    | some stretch =>
        obtain ⟨begins, ends⟩ := stretch_some _ _ _ found
        obtain ⟨inside, first, last, encloses, head, _⟩ := scanner.enclosed_found window _ _ begins ends
        rw [empty inside encloses] at head
        cases head
  · intro start stop begins ends
    rw [scanner.before_closing_behind] at ends
    obtain ⟨inside, first, last, encloses, head, tail, rfl, rfl⟩ := scanner.enclosed_found window _ _ begins ends
    exact (scanner.enclosed_intact window inside first last encloses head tail).order

-- A call within the arguments, and parentheses in a comment and in a literal; then an empty list.
theorem nested_call_arguments :
    let scanner := Scanner.ofText "f/*(*/(g(x), ')') )".toList
    let other := Scanner.ofText "f ) ( ) )".toList
    let inside : List Token := [⟨.identifier, ⟨7, 7⟩⟩, ⟨.openParen, ⟨8, 8⟩⟩, ⟨.identifier, ⟨9, 9⟩⟩,
      ⟨.closeParen, ⟨10, 10⟩⟩, ⟨.other, ⟨11, 11⟩⟩, ⟨.literal, ⟨13, 15⟩⟩]
    (Token.Encloses (scanner.reset ⟨1, 18⟩).rest.1 inside ∧
        ((call ⟨0, 18⟩ ⟨0, 0⟩).argumentsSpan scanner).1 = ⟨7, 15⟩) ∧
      ((scanner.afterOpening ⟨1, 18⟩).1 = some 7 ∧
        ((scanner.afterOpening ⟨1, 18⟩).2.beforeClosing ⟨1, 18⟩).1 = some 15 ∧ 7 ≤ 15) ∧
      (∀ inside, Token.Encloses (other.reset ⟨1, 8⟩).rest.1 inside → inside = []) ∧
      ((call ⟨0, 8⟩ ⟨0, 0⟩).argumentsSpan other).1 = ⟨0, 8⟩ := by
  intro scanner other inside
  have encloses : Token.Encloses (scanner.reset ⟨1, 18⟩).rest.1 inside := by
    have tokens : (scanner.reset ⟨1, 18⟩).rest.1 = [] ++ ⟨.openParen, ⟨6, 6⟩⟩ ::
        (inside ++ ⟨.closeParen, ⟨16, 16⟩⟩ :: [⟨.closeParen, ⟨18, 18⟩⟩]) := by decide +kernel
    rw [tokens]
    refine .between _ _ _ _ _ (by decide) rfl rfl (.plain _ _ (by decide) (by decide) ?_)
    exact .nested ⟨.openParen, ⟨8, 8⟩⟩ ⟨.closeParen, ⟨10, 10⟩⟩ [⟨.identifier, ⟨9, 9⟩⟩]
      [⟨.other, ⟨11, 11⟩⟩, ⟨.literal, ⟨13, 15⟩⟩] rfl rfl (.plain _ _ (by decide) (by decide) .nothing)
      (.plain _ _ (by decide) (by decide) (.plain _ _ (by decide) (by decide) .nothing))
  have empty : ∀ inside, Token.Encloses (other.reset ⟨1, 8⟩).rest.1 inside → inside = [] := by
    intro inside encloses
    have found := (Brackets.enclosed_ends _ inside encloses).2
    have nothing : Sight.through Brackets.beforeClosing (0, none) (other.reset ⟨1, 8⟩).rest.1 = some none := by
      decide +kernel
    rw [nothing, Option.some.injEq, eq_comm, Option.map_eq_none_iff] at found
    exact List.getLast?_eq_none_iff.mp found
  have spans := arguments_between_parentheses scanner (call ⟨0, 18⟩ ⟨0, 0⟩) ⟨0, 18⟩ ⟨0, 0⟩ (.inr rfl)
  have whole := arguments_between_parentheses other (call ⟨0, 8⟩ ⟨0, 0⟩) ⟨0, 8⟩ ⟨0, 0⟩ (.inr rfl)
  have begins : (scanner.afterOpening ⟨1, 18⟩).1 = some 7 := by decide +kernel
  have ends : ((scanner.afterOpening ⟨1, 18⟩).2.beforeClosing ⟨1, 18⟩).1 = some 15 := by decide +kernel
  exact ⟨⟨encloses, (spans.1 inside encloses _ rfl _ rfl).1⟩, ⟨begins, ends, spans.2.2 7 15 begins ends⟩,
    empty, whole.2.1 empty⟩

end Anchor

end JavaDiagnostics
