import JavaDiagnostics.Source.LineTable
import Mathlib.Data.List.Nodup

set_option autoImplicit false

namespace JavaDiagnostics

def Position.Precedes (a b : Position) : Prop := a.line < b.line ∨ a.line = b.line ∧ a.column < b.column

theorem Position.precedes_asymm (a b : Position) (ahead : a.Precedes b) : ¬ b.Precedes a := by
  rintro (line | ⟨line, column⟩) <;> rcases ahead with line' | ⟨line', column'⟩ <;> omega

-- Where one stands behind a character. The next one is looked at, and not yet read.
def Position.behind (position : Position) (c : Char) (next? : Option Char) : Position :=
  if c = '\n' ∨ (c = '\r' ∧ next? ≠ some '\n') then ⟨position.line + 1, 1⟩
  else ⟨position.line, position.column + 1⟩

def Position.read (position : Position) : Nat → List Char → Position
  | 0, _ => position
  | _ + 1, [] => position
  | count + 1, c :: rest => (position.behind c rest.head?).read count rest

namespace LineTable

def Ordered (table : LineTable) : Prop := table.ends.Pairwise (· ≤ ·)

def before (table : LineTable) (offset : Nat) : Nat := table.ends.countP (· < offset)

theorem before_none (ends : List Nat) (offset : Nat) (late : ∀ stop ∈ ends, offset ≤ stop) :
    before ⟨ends⟩ offset = 0 := by
  rw [before, List.countP_eq_zero]
  intro stop member
  simpa using late stop member

theorem is_before_iff (table : LineTable) (ordered : table.Ordered) (offset index : Nat) :
    table.isBefore offset index = true ↔ index < table.before offset := by
  obtain ⟨ends⟩ := table
  induction ends generalizing index with
  | nil => simp [isBefore, before]
  | cons stop rest ih =>
      obtain ⟨least, later⟩ := List.pairwise_cons.mp ordered
      by_cases early : stop < offset
      · cases index with
        | zero => simp [isBefore, before, early]
        | succ index => simpa [isBefore, before, early] using ih index later
      · have late : ∀ other ∈ stop :: rest, offset ≤ other := by
          intro other member
          rcases List.mem_cons.mp member with rfl | further
          · exact Nat.le_of_not_lt early
          · exact Nat.le_trans (Nat.le_of_not_lt early) (least other further)
        rw [before_none _ offset late]
        simp only [isBefore, Option.any_eq_true, decide_eq_true_eq, Nat.not_lt_zero, iff_false, not_exists, not_and]
        intro other found
        exact Nat.not_lt_of_le (late other (List.mem_of_getElem? found))

-- The halving keeps the number that it looks for between its bounds.
theorem search_before (table : LineTable) (ordered : table.Ordered) (offset base count : Nat)
    (low : base ≤ table.before offset) (high : table.before offset ≤ base + count) :
    table.search offset base count = table.before offset := by
  fun_induction search table offset base count with
  | case1 base => omega
  | case2 base early one =>
      rw [is_before_iff table ordered] at early
      omega
  | case3 base late one =>
      rw [is_before_iff table ordered] at late
      omega
  | case4 base count some several half early ih =>
      rw [is_before_iff table ordered] at early
      exact ih (by omega) (by omega)
  | case5 base count some several half late ih =>
      rw [is_before_iff table ordered] at late
      exact ih (by omega) (by omega)

theorem line_of_eq (table : LineTable) (ordered : table.Ordered) (offset : Nat) :
    table.lineOf offset = table.before offset + 1 := by
  have most : table.before offset ≤ table.ends.length := List.countP_le_length
  rw [lineOf, search_before table ordered offset 0 _ (Nat.zero_le _) (by omega)]

theorem line_start_behind (table : LineTable) (index stop : Nat) (found : table.ends[index]? = some stop) :
    table.lineStart (index + 2) = stop + 1 := by
  simp [lineStart, found]

theorem last_before (table : LineTable) (ordered : table.Ordered) (offset index : Nat)
    (behind : table.before offset = index + 1) : ∃ stop, table.ends[index]? = some stop ∧ stop < offset := by
  have early : table.isBefore offset index = true := by
    rw [is_before_iff table ordered]
    omega
  obtain ⟨stop, found, earlier⟩ := (Option.any_eq_true _ _).mp early
  exact ⟨stop, found, of_decide_eq_true earlier⟩

theorem line_start_le (table : LineTable) (ordered : table.Ordered) (offset : Nat) :
    table.lineStart (table.lineOf offset) ≤ offset := by
  rw [line_of_eq table ordered]
  cases some : table.before offset with
  | zero => exact Nat.zero_le offset
  | succ index =>
      obtain ⟨stop, found, earlier⟩ := table.last_before ordered offset index some
      rw [line_start_behind table index stop found]
      exact earlier

theorem before_mono (table : LineTable) (a b : Nat) (le : a ≤ b) : table.before a ≤ table.before b := by
  apply List.countP_mono_left
  intro stop _ early
  exact decide_eq_true (Nat.lt_of_lt_of_le (of_decide_eq_true early) le)

theorem position_forward (table : LineTable) (ordered : table.Ordered) (a b : Nat) (less : a < b) :
    (table.position a).Precedes (table.position b) := by
  have lineA := line_of_eq table ordered a
  have lineB := line_of_eq table ordered b
  have mono := table.before_mono a b (Nat.le_of_lt less)
  by_cases same : table.lineOf a = table.lineOf b
  · have start := line_start_le table ordered a
    refine .inr ⟨same, ?_⟩
    simp only [position, same] at start ⊢
    omega
  · refine .inl ?_
    simp only [position]
    omega

theorem column_within (table : LineTable) (ordered : table.Ordered) (offset bound : Nat) (below : offset < bound) :
    (table.position offset).column < bound ∨ offset + 1 = bound ∧ table.before offset = 0 := by
  cases some : table.before offset with
  | zero =>
      have most : (table.position offset).column ≤ offset + 1 := Nat.succ_le_succ (Nat.sub_le offset _)
      by_cases last : offset + 1 = bound
      · exact .inr ⟨last, rfl⟩
      · exact .inl (by omega)
  | succ index =>
      obtain ⟨stop, found, earlier⟩ := table.last_before ordered offset index some
      refine .inl ?_
      simp only [position, line_of_eq table ordered offset, some, line_start_behind table index stop found]
      omega

theorem position_inverse (table : LineTable) (ordered : table.Ordered) :
    (∀ offset : Nat, table.lineStart (table.lineOf offset) ≤ offset ∧ 1 ≤ (table.position offset).column ∧
      table.lineStart (table.position offset).line + (table.position offset).column - 1 = offset ∧
      ∀ bound : Nat, offset < bound →
        (table.position offset).column < bound ∨ offset + 1 = bound ∧ table.before offset = 0) ∧
    ∀ a b : Nat, (table.position a).Precedes (table.position b) ↔ a < b := by
  constructor
  · intro offset
    have start := line_start_le table ordered offset
    refine ⟨start, Nat.le_add_left 1 _, ?_, column_within table ordered offset⟩
    simp only [position]
    omega
  · intro a b
    refine ⟨fun ahead => ?_, position_forward table ordered a b⟩
    rcases Nat.lt_trichotomy a b with less | same | more
    · exact less
    · subst same
      exact absurd ahead (Position.precedes_asymm _ _ ahead)
    · exact absurd ahead (Position.precedes_asymm _ _ (position_forward table ordered b a more))

-- The end of the first line is given twice, so that the second line holds no character.
theorem position_behind_repeated_end :
    let table : LineTable := ⟨[2, 2, 5]⟩
    table.Ordered ∧ (table.position 2).Precedes (table.position 3) ∧ table.position 3 = ⟨3, 1⟩ ∧
      table.lineStart 3 + 1 - 1 = 3 := by
  intro table
  have ordered : table.Ordered := by
    unfold Ordered
    decide
  obtain ⟨inverse, order⟩ := position_inverse table ordered
  have there : table.position 3 = ⟨3, 1⟩ := by
    rw [position, line_of_eq table ordered]
    decide
  have back := (inverse 3).2.2.1
  rw [there] at back
  exact ⟨ordered, (order 2 3).mpr (by decide), there, back⟩

theorem before_succ (table : LineTable) (offset : Nat) :
    table.before (offset + 1) = table.before offset + table.ends.count offset := by
  obtain ⟨ends⟩ := table
  induction ends with
  | nil => rfl
  | cons stop rest ih =>
      simp only [before, List.countP_cons, List.count_cons, decide_eq_true_eq, beq_iff_eq] at ih ⊢
      split_ifs <;> omega

theorem position_on_line (table : LineTable) (ordered : table.Ordered) (offset : Nat)
    (absent : offset ∉ table.ends) :
    table.position (offset + 1) = ⟨(table.position offset).line, (table.position offset).column + 1⟩ := by
  have same : table.lineOf (offset + 1) = table.lineOf offset := by
    rw [line_of_eq table ordered, line_of_eq table ordered, before_succ, List.count_eq_zero_of_not_mem absent]
  have start := line_start_le table ordered offset
  simp only [position, same, Position.mk.injEq, true_and]
  omega

theorem position_behind_end (table : LineTable) (ordered : table.Ordered) (offset : Nat)
    (once : table.ends.count offset = 1) :
    table.position (offset + 1) = ⟨(table.position offset).line + 1, 1⟩ := by
  have more := table.before_succ offset
  have early : table.isBefore (offset + 1) (table.before offset) = true := by
    rw [is_before_iff table ordered]
    omega
  have late : ¬ table.isBefore offset (table.before offset) = true := by
    rw [is_before_iff table ordered]
    exact Nat.lt_irrefl _
  obtain ⟨stop, found, upper⟩ := (Option.any_eq_true _ _).mp early
  have lower : ¬ stop < offset := by simpa [isBefore, found] using late
  have start := line_start_behind table _ stop found
  have line := line_of_eq table ordered (offset + 1)
  rw [more, once] at line
  simp only [position, line, line_of_eq table ordered offset, start, Position.mk.injEq, true_and]
  have upper := of_decide_eq_true upper
  omega

theorem ends_behind (offset : Nat) (text : List Char) : ∀ stop ∈ endsFrom offset text, offset ≤ stop := by
  induction text generalizing offset with
  | nil => simp [endsFrom]
  | cons c rest ih =>
      have later : ∀ stop ∈ endsFrom (offset + 1) rest, offset ≤ stop :=
        fun stop member => Nat.le_of_succ_le (ih (offset + 1) stop member)
      rw [endsFrom]
      split
      · simpa using later
      · exact later

theorem ends_ascending (offset : Nat) (text : List Char) : (endsFrom offset text).Pairwise (· < ·) := by
  induction text generalizing offset with
  | nil => exact .nil
  | cons c rest ih =>
      rw [endsFrom]
      split
      · exact .cons (ends_behind (offset + 1) rest) (ih (offset + 1))
      · exact ih (offset + 1)

theorem text_ordered (text : List Char) : (ofText text).Ordered :=
  (ends_ascending 0 text).imp Nat.le_of_lt

theorem ends_character (base place : Nat) (text : List Char) (c : Char) (rest : List Char)
    (here : text.drop place = c :: rest) :
    base + place ∈ endsFrom base text ↔ c = '\n' ∨ (c = '\r' ∧ rest.head? ≠ some '\n') := by
  induction place generalizing base text with
  | zero =>
      obtain rfl : text = c :: rest := here
      have further : base ∉ endsFrom (base + 1) rest :=
        fun member => Nat.not_succ_le_self base (ends_behind (base + 1) rest base member)
      rw [endsFrom]
      split_ifs with ended <;> simp [ended, further]
  | succ place ih =>
      cases text with
      | nil => cases here
      | cons first others =>
          have onward := ih (base + 1) others here
          rw [Nat.add_right_comm] at onward
          rw [endsFrom]
          split
          · rw [← onward, List.mem_cons, Nat.add_assoc]
            simp
          · exact onward

-- The step of the walk: one character more leads behind that character.
theorem position_succ (text : List Char) (offset : Nat) (c : Char) (rest : List Char)
    (here : text.drop offset = c :: rest) :
    (ofText text).position (offset + 1) = ((ofText text).position offset).behind c rest.head? := by
  have ended := ends_character 0 offset text c rest here
  rw [Nat.zero_add] at ended
  have once : (ofText text).ends.Nodup := (ends_ascending 0 text).imp Nat.ne_of_lt
  rw [Position.behind]
  split
  next stops =>
    exact position_behind_end _ (text_ordered text) offset
      (List.count_eq_one_of_mem once (ended.mpr stops))
  next goes => exact position_on_line _ (text_ordered text) offset (goes ∘ ended.mp)

theorem position_read (text : List Char) (base count : Nat) (within : base + count ≤ text.length) :
    ((ofText text).position base).read count (text.drop base) = (ofText text).position (base + count) := by
  induction count generalizing base with
  | zero => rw [Position.read, Nat.add_zero]
  | succ count ih =>
      have inside : base < text.length := by omega
      rw [List.drop_eq_getElem_cons inside, Position.read,
        ← position_succ text base text[base] _ (List.drop_eq_getElem_cons inside), ih (base + 1) (by omega)]
      congr 1
      omega

theorem position_zero (text : List Char) : (ofText text).position 0 = ⟨1, 1⟩ := by
  have first := line_of_eq (ofText text) (text_ordered text) 0
  rw [before_none _ 0 fun stop _ => Nat.zero_le stop] at first
  rw [position, first]
  rfl

theorem position_as_read (text : List Char) (offset : Nat) (within : offset ≤ text.length) :
    (ofText text).position offset = Position.read ⟨1, 1⟩ offset text := by
  have counted := position_read text 0 offset (by omega)
  rw [List.drop_zero, position_zero, Nat.zero_add] at counted
  exact counted.symm

-- Between the two characters of one line end, and behind the last of three ends on end.
theorem position_among_ends :
    let text := "a\r\n\r\rb\n".toList
    (2 ≤ text.length ∧ (ofText text).position 2 = ⟨1, 3⟩) ∧
      (5 ≤ text.length ∧ (ofText text).position 5 = ⟨4, 1⟩) ∧
      (7 ≤ text.length ∧ (ofText text).position 7 = ⟨5, 1⟩) := by
  intro text
  refine ⟨⟨by decide, ?_⟩, ⟨by decide, ?_⟩, by decide, ?_⟩
  · rw [position_as_read text 2 (by decide)]
    decide
  · rw [position_as_read text 5 (by decide)]
    decide
  · rw [position_as_read text 7 (by decide)]
    decide

end LineTable

end JavaDiagnostics
