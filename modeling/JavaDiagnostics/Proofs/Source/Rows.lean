import JavaDiagnostics.Proofs.Source.Lines

set_option autoImplicit false

namespace JavaDiagnostics

-- What ends a line, by what stands behind it. The last line may go without.
inductive Terminator : List Char → List Char → Prop where
  | lineFeed (rest : List Char) : Terminator ['\n'] rest
  | pair (rest : List Char) : Terminator ['\r', '\n'] rest
  | carriageReturn (rest : List Char) (alone : rest.head? ≠ some '\n') : Terminator ['\r'] rest
  | textEnd : Terminator [] []

theorem Terminator.breaks {terminator rest : List Char} (ends : Terminator terminator rest) :
    ∀ c ∈ terminator, c = '\n' ∨ c = '\r' := by
  cases ends <;> simp

theorem Terminator.length_le {terminator rest : List Char} (ends : Terminator terminator rest) :
    terminator.length ≤ 2 := by
  cases ends <;> simp

theorem Terminator.pair_iff {terminator rest : List Char} (ends : Terminator terminator rest) :
    terminator = ['\r', '\n'] ↔ terminator.length = 2 := by
  cases ends <;> simp

theorem Terminator.rest_of_nil {terminator rest : List Char} (ends : Terminator terminator rest)
    (none : terminator = []) : rest = [] := by
  cases ends with
  | textEnd => rfl
  | lineFeed _ | pair _ | carriageReturn _ _ => cases none

theorem Terminator.last {terminator rest : List Char} (ends : Terminator terminator rest) :
    ∀ c ∈ terminator.getLast?, c = '\n' ∨ c = '\r' ∧ rest.head? ≠ some '\n' := by
  cases ends with
  | lineFeed _ => simp
  | pair _ => simp
  | carriageReturn _ alone => simpa using alone
  | textEnd => nofun

structure Row (text : List Char) where
  front : List Char
  line : List Char
  terminator : List Char
  rest : List Char
  whole : text = front ++ (line ++ (terminator ++ rest))
  starts : ∀ c ∈ front.getLast?,
    c = '\n' ∨ c = '\r' ∧ (line ++ (terminator ++ rest)).head? ≠ some '\n'
  plain : ∀ c ∈ line, c ≠ '\n' ∧ c ≠ '\r'
  ends : Terminator terminator rest

namespace Row

def stop {text : List Char} (row : Row text) : Nat := row.front.length + row.line.length

def Holds {text : List Char} (row : Row text) (offset : Nat) : Prop :=
  row.front.length ≤ offset ∧ offset < row.stop + row.terminator.length

theorem first_line (text : List Char) :
    ∃ line terminator rest : List Char, text = line ++ (terminator ++ rest) ∧
      (∀ c ∈ line, c ≠ '\n' ∧ c ≠ '\r') ∧ Terminator terminator rest := by
  induction text with
  | nil => exact ⟨[], [], [], rfl, nofun, .textEnd⟩
  | cons c others ih =>
      by_cases feed : c = '\n'
      · exact ⟨[], ['\n'], others, by simp [feed], nofun, .lineFeed others⟩
      · by_cases carriage : c = '\r'
        · by_cases alone : others.head? ≠ some '\n'
          · exact ⟨[], ['\r'], others, by simp [carriage], nofun, .carriageReturn others alone⟩
          · obtain ⟨rest, rfl⟩ := List.head?_eq_some_iff.mp (not_not.mp alone)
            exact ⟨[], ['\r', '\n'], rest, by simp [carriage], nofun, .pair rest⟩
        · obtain ⟨line, terminator, rest, whole, plain, ends⟩ := ih
          refine ⟨c :: line, terminator, rest, by rw [whole]; rfl, ?_, ends⟩
          intro other member
          rcases List.mem_cons.mp member with rfl | further
          · exact ⟨feed, carriage⟩
          · exact plain other further

def behind {line terminator rest : List Char} (ends : Terminator terminator rest) (row : Row rest)
    (ended : terminator ≠ []) : Row (line ++ (terminator ++ rest)) where
  front := line ++ (terminator ++ row.front)
  line := row.line
  terminator := row.terminator
  rest := row.rest
  whole := by
    have whole := row.whole
    simp only [List.append_assoc]
    rw [← whole]
  starts := by
    intro c last
    cases given : row.front.getLast? with
    | some other =>
        simp only [List.getLast?_append, given, Option.some_or, Option.mem_some] at last
        exact last ▸ row.starts other given
    | none =>
        have first : row.front = [] := List.getLast?_eq_none_iff.mp given
        have whole := row.whole
        rw [first, List.nil_append] at whole
        rw [← whole]
        rw [first, List.append_nil, List.getLast?_append_of_ne_nil _ ended] at last
        exact ends.last c last
  plain := row.plain
  ends := row.ends

theorem exists_holding (text : List Char) (offset : Nat) (inside : offset < text.length) :
    ∃ row : Row text, row.Holds offset := by
  obtain ⟨line, terminator, rest, whole, plain, ends⟩ := first_line text
  by_cases here : offset < line.length + terminator.length
  · exact ⟨⟨[], line, terminator, rest, whole, nofun, plain, ends⟩, by simp [Holds, stop, here]⟩
  · have size : text.length = line.length + (terminator.length + rest.length) := by simp [whole]
    subst whole
    have ended : terminator ≠ [] := by
      intro none
      simp only [none, ends.rest_of_nil none, List.append_nil, List.length_nil] at inside here
      omega
    have shorter := List.length_pos_of_ne_nil ended
    obtain ⟨row, least, most⟩ := exists_holding rest (offset - (line.length + terminator.length)) (by omega)
    refine ⟨behind ends row ended, ?_⟩
    simp only [Holds, stop, behind, List.length_append] at least most ⊢
    omega
termination_by text.length
decreasing_by
  omega

end Row

namespace LineTable

theorem ends_plain (base : Nat) (line tail : List Char) (plain : ∀ c ∈ line, c ≠ '\n' ∧ c ≠ '\r') :
    endsFrom base (line ++ tail) = endsFrom (base + line.length) tail := by
  induction line generalizing base with
  | nil => rfl
  | cons c rest ih =>
      obtain ⟨feed, carriage⟩ := plain c List.mem_cons_self
      have later := ih (base + 1) fun other member => plain other (List.mem_cons_of_mem c member)
      simp only [List.cons_append, endsFrom, feed, carriage, false_and, or_self, if_false, later,
        List.length_cons]
      congr 1
      omega

theorem ends_cons (base : Nat) (c : Char) (rest : List Char) :
    endsFrom base (c :: rest) =
      (if c = '\n' ∨ (c = '\r' ∧ rest.head? ≠ some '\n') then [base] else []) ++ endsFrom (base + 1) rest := by
  rw [endsFrom]
  split <;> rfl

theorem ends_terminator (base : Nat) (terminator rest : List Char) (ends : Terminator terminator rest)
    (ended : terminator ≠ []) :
    endsFrom base (terminator ++ rest) =
      (base + (terminator.length - 1)) :: endsFrom (base + terminator.length) rest := by
  cases ends with
  | lineFeed _ => simp [ends_cons]
  | pair _ => simp [ends_cons]
  | carriageReturn _ alone => simp [ends_cons, alone]
  | textEnd => exact absurd rfl ended

theorem ends_front (base : Nat) (front tail : List Char)
    (starts : ∀ c ∈ front.getLast?, c = '\n' ∨ c = '\r' ∧ tail.head? ≠ some '\n') :
    ∃ earlier : List Nat, endsFrom base (front ++ tail) = earlier ++ endsFrom (base + front.length) tail ∧
      (∀ stop ∈ earlier, stop < base + front.length) ∧
      (earlier.getLast?.map (· + 1)).getD base = base + front.length := by
  induction front generalizing base with
  | nil => exact ⟨[], rfl, nofun, rfl⟩
  | cons c more ih =>
      cases more with
      | nil => exact ⟨[base], by simp [ends_cons, starts c rfl], by simp, rfl⟩
      | cons next others =>
          obtain ⟨earlier, split, early, last⟩ := ih (base + 1) starts
          have behind : base + 1 + (next :: others).length = base + (c :: next :: others).length := by
            simp only [List.length_cons]
            omega
          rw [behind] at split early last
          rw [List.cons_append, ends_cons, split, ← List.append_assoc]
          refine ⟨_, rfl, ?_, ?_⟩
          · intro stop member
            rcases List.mem_append.mp member with first | further
            · have same : stop = base := by
                split at first
                · exact List.mem_singleton.mp first
                · cases first
              simp only [same, List.length_cons]
              omega
            · exact early stop further
          · cases given : earlier.getLast? with
            | none => simp [given] at last
            | some stop => simpa [List.getLast?_append, given] using last

theorem line_start_last (earlier later : List Nat) :
    lineStart ⟨earlier ++ later⟩ (earlier.length + 1) = (earlier.getLast?.map (· + 1)).getD 0 := by
  rcases List.eq_nil_or_concat' earlier with rfl | ⟨init, last, rfl⟩
  · rfl
  · have found : (init ++ [last] ++ later)[init.length]? = some last := by simp
    rw [List.length_append, List.length_singleton, line_start_behind ⟨_⟩ init.length last found]
    simp

theorem row_end (text : List Char) (row : Row text) :
    let later := endsFrom row.stop (row.terminator ++ row.rest)
    later[0]?.getD text.length = row.stop + (row.terminator.length - 1) ∧
      ∀ stop ∈ later, row.stop + (row.terminator.length - 1) ≤ stop := by
  intro later
  by_cases ended : row.terminator = []
  · have size := congrArg List.length row.whole
    have none : row.rest = [] := row.ends.rest_of_nil ended
    have nothing : later = [] := by simp only [later, ended, none, List.append_nil, endsFrom]
    simp only [ended, none, List.append_nil, List.length_append] at size
    rw [nothing]
    exact ⟨by simpa [ended, Row.stop] using size, List.forall_mem_nil _⟩
  · have behind : later = (row.stop + (row.terminator.length - 1)) :: _ := ends_terminator _ _ _ row.ends ended
    rw [behind]
    refine ⟨rfl, List.forall_mem_cons.mpr ⟨Nat.le_refl _, ?_⟩⟩
    intro stop member
    have bound := ends_behind _ _ stop member
    omega

theorem row_bounds (text : List Char) (row : Row text) (offset : Nat) (holds : row.Holds offset) :
    let line := (ofText text).lineOf offset
    (ofText text).lineStart line = row.front.length ∧
      (ofText text).ends[line - 1]?.getD text.length = row.stop + (row.terminator.length - 1) := by
  obtain ⟨earlier, split, early, last⟩ := ends_front 0 row.front _ row.starts
  rw [← row.whole, ends_plain _ row.line _ row.plain, Nat.zero_add] at split
  rw [Nat.zero_add] at early last
  obtain ⟨first, late⟩ := row_end text row
  obtain ⟨least, most⟩ := holds
  have ends : (ofText text).ends = earlier ++ endsFrom row.stop (row.terminator ++ row.rest) := split
  have line : (ofText text).lineOf offset = earlier.length + 1 := by
    have all : earlier.countP (· < offset) = earlier.length :=
      List.countP_eq_length.mpr fun stop member => decide_eq_true (Nat.lt_of_lt_of_le (early stop member) least)
    have none : (endsFrom row.stop (row.terminator ++ row.rest)).countP (· < offset) = 0 := by
      refine before_none _ offset fun stop member => ?_
      have bound := late stop member
      omega
    rw [line_of_eq _ (text_ordered text), before, ends, List.countP_append, all, none]
  intro place
  simp only [place, line, Nat.add_sub_cancel]
  constructor
  · rw [← last, ← line_start_last earlier, ← ends]
  · rw [ends, List.getElem?_append_right (Nat.le_refl _), Nat.sub_self, first]

end LineTable

end JavaDiagnostics
