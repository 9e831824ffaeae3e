import JavaDiagnostics.Presentation
import JavaDiagnostics.Proofs.Session.Calls
import JavaDiagnostics.Proofs.Source.Rows

set_option autoImplicit false

namespace JavaDiagnostics

def Span.countFrom (span : Span) (first number : Nat) : Nat := (List.range' first number).countP span.contains

theorem Span.count_from_eq (span : Span) (first number : Nat) :
    span.countFrom first number = min (span.stop + 1) (first + number) - max span.start first := by
  induction number with
  | zero =>
      simp only [countFrom, List.range'_zero, List.countP_nil]
      omega
  | succ number ih =>
      simp only [countFrom] at ih ⊢
      rw [List.range'_1_concat, List.countP_append, ih, List.countP_singleton]
      simp only [contains, Bool.and_eq_true, decide_eq_true_eq]
      split <;> omega

namespace Row

variable {text : List Char} (row : Row text)

def marked (span : Span) : Nat := span.countFrom row.front.length row.line.length

theorem marked_eq (span : Span) (least : row.front.length ≤ span.start) :
    row.marked span = min (span.stop + 1) row.stop - span.start := by
  rw [marked, Span.count_from_eq, Nat.max_eq_left least]
  rfl

-- The span starts on the line and takes in the carriage return of a terminator of two characters.
def Overrun (span : Span) : Prop :=
  row.terminator = ['\r', '\n'] ∧ span.start < row.stop ∧ row.stop ≤ span.stop

instance (span : Span) : Decidable (row.Overrun span) := inferInstanceAs (Decidable (_ ∧ _ ∧ _))

end Row

namespace Presentation

theorem strip_breaks (line tail : List Char) (plain : ∀ c ∈ line, c ≠ '\n' ∧ c ≠ '\r')
    (breaks : ∀ c ∈ tail, c = '\n' ∨ c = '\r') :
    ((line ++ tail).reverse.dropWhile fun c => c == '\r' || c == '\n').reverse = line := by
  have stripped : ∀ c ∈ tail.reverse, (c == '\r' || c == '\n') = true := by
    intro c member
    rcases breaks c (List.mem_reverse.mp member) with rfl | rfl <;> rfl
  rw [List.reverse_append, List.dropWhile_append_of_pos stripped, List.reverse_eq_iff,
    List.dropWhile_eq_self_iff]
  intro some
  obtain ⟨feed, carriage⟩ := plain _ (List.mem_reverse.mp (List.getElem_mem some))
  rw [Bool.or_eq_true, beq_iff_eq, beq_iff_eq]
  exact not_or.mpr ⟨carriage, feed⟩

-- In an empty first line the terminator itself is cut out of the text, and then stripped.
theorem line_text_row (unit : SourceUnit) (row : Row unit.text) (offset : Nat) (holds : row.Holds offset) :
    lineText unit (unit.lines.lineOf offset) = row.line := by
  obtain ⟨start, stop⟩ := LineTable.row_bounds unit.text row offset holds
  obtain ⟨least, most⟩ := holds
  have cut : unit.text.drop row.front.length = row.line ++ (row.terminator ++ row.rest) := by
    simpa using congrArg (List.drop row.front.length) row.whole
  have taken (count : Nat) (all : row.line.length ≤ count)
      (few : count ≤ row.line.length + row.terminator.length) :
      (unit.text.drop row.front.length).take count =
        row.line ++ row.terminator.take (count - row.line.length) := by
    rw [cut, List.take_append, List.take_of_length_le all, List.take_append_of_le_length (by omega)]
  have breaks (count : Nat) : ∀ c ∈ row.terminator.take count, c = '\n' ∨ c = '\r' :=
    fun c member => row.ends.breaks c (List.mem_of_mem_take member)
  unfold lineText SourceUnit.slice lineStop SourceUnit.lines
  simp only [start, stop]
  rw [taken _ (by unfold Row.stop; omega) (by unfold Row.stop at most ⊢; omega)]
  exact strip_breaks row.line _ row.plain (breaks _)

theorem caret_count_row (unit : SourceUnit) (diagnostic : Diagnostic) (row : Row unit.text)
    (holds : row.Holds diagnostic.span.start)
    (line : diagnostic.position.line = unit.lines.lineOf diagnostic.span.start) :
    caretCount unit diagnostic =
      max 1 (row.marked diagnostic.span) + if row.Overrun diagnostic.span then 1 else 0 := by
  obtain ⟨_, stop⟩ := LineTable.row_bounds unit.text row _ holds
  have stopped : lineStop unit diagnostic.position.line = row.stop + (row.terminator.length - 1) := by
    rw [line]
    exact stop
  have size := row.ends.length_le
  obtain ⟨least, most⟩ := holds
  rw [caretCount, stopped, row.marked_eq _ least]
  simp only [Row.Overrun, row.ends.pair_iff]
  split_ifs with overrun
  · obtain ⟨pair, on, past⟩ := overrun
    omega
  · omega

theorem carets_reach {text : List Char} (row : Row text) (span : Span) (least : row.front.length ≤ span.start) :
    (¬ row.Overrun span → span.start < row.stop →
      span.start - row.front.length + max 1 (row.marked span) ≤ row.line.length) ∧
    (row.Overrun span → span.start - row.front.length + (row.marked span + 1) = row.line.length + 1 ∧
      1 ≤ row.marked span) := by
  rw [row.marked_eq span least]
  unfold Row.Overrun Row.stop
  constructor
  · intro _ on
    omega
  · rintro ⟨_, on, past⟩
    omega

theorem recorded_position (call : Session.Call) (reporter : Reporter) (context : Context) (diagnostic : Diagnostic)
    (recorded : (call.outcome reporter (some context)).1.recorded = some diagnostic) :
    diagnostic.position = context.unit.position diagnostic.span.start := by
  obtain ⟨description, _, rfl⟩ := (Session.recorded_iff call reporter context diagnostic).mp recorded
  rfl

theorem quotation_marks_span (presentation : Presentation) (layout : presentation.layout = .text)
    (call : Session.Call) (reporter : Reporter) (context : Context) (diagnostic : Diagnostic)
    (recorded : (call.outcome reporter (some context)).1.recorded = some diagnostic)
    (inside : diagnostic.span.start < context.unit.text.length) :
    (∃ row : Row context.unit.text, row.Holds diagnostic.span.start) ∧
    ∀ row : Row context.unit.text, row.Holds diagnostic.span.start → ∃ carets : Nat,
      presentation.present diagnostic (some context.unit) =
        presentation.heading diagnostic ++ String.ofList
          (gutter diagnostic.position.line ++ row.line ++ '\n' :: blankGutter
            ++ List.replicate (diagnostic.position.column - 1) ' ' ++ List.replicate carets '^' ++ ['\n']) ∧
      diagnostic.position.column - 1 = diagnostic.span.start - row.front.length ∧
      (¬ row.Overrun diagnostic.span → carets = max 1 (row.marked diagnostic.span) ∧
        (diagnostic.span.start < row.stop → diagnostic.position.column - 1 + carets ≤ row.line.length)) ∧
      (row.Overrun diagnostic.span → carets = row.marked diagnostic.span + 1 ∧
        diagnostic.position.column - 1 + carets = row.line.length + 1) := by
  refine ⟨Row.exists_holding _ _ inside, fun row holds => ?_⟩
  have placed := recorded_position call reporter context diagnostic recorded
  have line : diagnostic.position.line = context.unit.lines.lineOf diagnostic.span.start :=
    congrArg Position.line placed
  have column : diagnostic.position.column - 1 = diagnostic.span.start - row.front.length := by
    rw [← (LineTable.row_bounds context.unit.text row _ holds).1]
    exact congrArg (Position.column · - 1) placed
  obtain ⟨within, past⟩ := carets_reach row diagnostic.span holds.1
  refine ⟨caretCount context.unit diagnostic, ?_, column, ?_, ?_⟩
  · have quoted : lineText context.unit diagnostic.position.line = row.line := by
      rw [line]
      exact line_text_row context.unit row _ holds
    simp only [present, layout, quotation, quoted]
  · intro fits
    rw [caret_count_row context.unit diagnostic row holds line, if_neg fits, column]
    exact ⟨rfl, within fits⟩
  · intro overrun
    obtain ⟨reach, some⟩ := past overrun
    rw [caret_count_row context.unit diagnostic row holds line, if_pos overrun, column, Nat.max_eq_right some]
    exact ⟨rfl, reach⟩

theorem second_line_marked :
    let unit := SourceUnit.ofText "A.java" 0 "a\nbc d\re"
    let call := Session.Call.handle ⟨0x2000026E, [], [], ⟨3, 7⟩⟩
    let diagnostic := Reporter.diagnose ⟨0x2000026E, [], [], ⟨3, 7⟩⟩ (.warning ||| .optional) (some unit)
    (call.outcome (.new .usual .proceed) (some (.opened unit .unit))).1.recorded = some diagnostic ∧
      diagnostic.span.start < unit.text.length ∧
      (plain .text).present diagnostic (some unit) =
        "warning: Dead code [DeadCode]\n --> A.java:2:2\n   2 | bc d\n     |  ^^^\n" := by
  intro unit call diagnostic
  have recorded : (call.outcome (.new .usual .proceed) (some (.opened unit .unit))).1.recorded = some diagnostic := by
    decide +kernel
  have inside : diagnostic.span.start < unit.text.length := by decide
  refine ⟨recorded, inside, ?_⟩
  obtain ⟨_, quoted⟩ := quotation_marks_span (plain .text) rfl call _ _ diagnostic recorded inside
  let row : Row unit.text :=
    ⟨['a', '\n'], ['b', 'c', ' ', 'd'], ['\r'], ['e'], by decide, by simp, by simp,
      .carriageReturn _ (by decide)⟩
  have holds : row.Holds 3 := ⟨by decide, by decide⟩
  have fits : ¬ row.Overrun ⟨3, 7⟩ := by decide
  obtain ⟨carets, shown, _, within, _⟩ := quoted row holds
  obtain ⟨rfl, _⟩ := within fits
  refine shown.trans ?_
  decide +kernel

-- That there are as many carets as characters of the quoted line does not hold where both characters of the
-- terminator are left out of the quotation.
theorem carriage_return_marked :
    let unit := SourceUnit.ofText "A.java" 0 "f(1,\r\n  2);\r\n"
    let call := Session.Call.handle ⟨0x2000026E, [], [], ⟨0, 9⟩⟩
    let diagnostic := Reporter.diagnose ⟨0x2000026E, [], [], ⟨0, 9⟩⟩ (.warning ||| .optional) (some unit)
    (call.outcome (.new .usual .proceed) (some (.opened unit .unit))).1.recorded = some diagnostic ∧
      diagnostic.span.start ≤ diagnostic.span.stop ∧ diagnostic.span.start < unit.text.length ∧
      (∃ row : Row unit.text, row.Holds diagnostic.span.start ∧ row.line = "f(1,".toList ∧
        max 1 (row.marked diagnostic.span) = 4) ∧
      (plain .text).present diagnostic (some unit) =
        "warning: Dead code [DeadCode]\n --> A.java:1:1\n   1 | f(1,\n     | ^^^^^\n" := by
  intro unit call diagnostic
  let row : Row unit.text :=
    ⟨[], "f(1,".toList, ['\r', '\n'], "  2);\r\n".toList, by decide, by simp, by simp, .pair _⟩
  have holds : row.Holds 0 := ⟨by decide, by decide⟩
  refine ⟨by decide +kernel, by decide, by decide, ⟨row, holds, rfl, by decide⟩, ?_⟩
  decide +kernel

end Presentation

end JavaDiagnostics
