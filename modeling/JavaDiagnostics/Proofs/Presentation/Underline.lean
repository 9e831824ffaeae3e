import JavaDiagnostics.Proofs.Presentation.Quotation
import JavaDiagnostics.Proofs.Text.Numeral

set_option autoImplicit false

namespace JavaDiagnostics

namespace LineTable

theorem read_feeds (line feeds : Nat) (rest : List Char) :
    Position.read ⟨line, 1⟩ feeds (List.replicate feeds '\n' ++ rest) = ⟨line + feeds, 1⟩ := by
  induction feeds generalizing line with
  | zero => rw [Position.read, Nat.add_zero]
  | succ feeds ih =>
      have step : Position.behind ⟨line, 1⟩ '\n' (List.replicate feeds '\n' ++ rest).head? = ⟨line + 1, 1⟩ :=
        if_pos (.inl rfl)
      rw [List.replicate_succ, List.cons_append, Position.read, step, ih, Nat.add_right_comm, Nat.add_assoc]

theorem position_behind_feeds (feeds : Nat) (rest : List Char) :
    (ofText (List.replicate feeds '\n' ++ rest)).position feeds = ⟨feeds + 1, 1⟩ := by
  have counted := position_read (List.replicate feeds '\n' ++ rest) 0 feeds (by simp)
  rw [List.drop_zero, position_zero, Nat.zero_add, read_feeds, Nat.add_comm] at counted
  exact counted.symm

end LineTable

theorem Row.line_character {text : List Char} (row : Row text) (offset : Nat)
    (least : row.front.length ≤ offset) (on : offset < row.stop) :
    row.line[offset - row.front.length]? = text[offset]? := by
  have inside : offset - row.front.length < row.line.length := by
    unfold Row.stop at on
    omega
  have whole := congrArg (·[offset]?) row.whole
  simp only [List.getElem?_append_right least, List.getElem?_append_left inside] at whole
  exact whole.symm

namespace Presentation

theorem gutter_length (line : Nat) :
    (gutter line).length = blankGutter.length + ((Text.Numeral.decimalChars line).length - numberWidth) := by
  simp only [gutter, blankGutter, numberWidth, List.length_append, List.length_replicate, List.length_cons,
    List.length_nil]
  omega

theorem gutters_level (line : Nat) : (gutter line).length = blankGutter.length ↔ line < Nat.pow 10 numberWidth := by
  rw [gutter_length, ← Text.Numeral.decimal_length line numberWidth (by decide)]
  omega

theorem gutter_single_line (line : Nat) : '\n' ∉ gutter line := by
  have number : '\n' ∉ Text.Numeral.decimalChars line :=
    fun member => absurd (Text.Numeral.decimal_is_digit line '\n' member) (by decide)
  simp [gutter, number]

theorem first_caret (padding carets : Nat) (some : 0 < carets) :
    let underline := blankGutter ++ List.replicate padding ' ' ++ List.replicate carets '^'
    '^' ∈ underline ∧ underline.idxOf '^' = blankGutter.length + padding := by
  intro underline
  obtain ⟨others, rfl⟩ := Nat.exists_eq_succ_of_ne_zero (Nat.ne_of_gt some)
  have before : '^' ∉ blankGutter ++ List.replicate padding ' ' := by simp [blankGutter]
  constructor
  · simp [underline]
  · rw [List.idxOf_append_of_notMem before]
    simp [List.replicate_succ]

theorem underline_below_start (presentation : Presentation) (layout : presentation.layout = .text)
    (call : Session.Call) (reporter : Reporter) (context : Context) (diagnostic : Diagnostic)
    (recorded : (call.outcome reporter (some context)).1.recorded = some diagnostic) :
    let line := diagnostic.position.line
    let padding := diagnostic.position.column - 1
    let shown := gutter line ++ lineText context.unit line
    let underline := blankGutter ++ List.replicate padding ' ' ++
      List.replicate (caretCount context.unit diagnostic) '^'
    (presentation.present diagnostic (some context.unit) =
        presentation.heading diagnostic ++ String.ofList (shown ++ '\n' :: underline ++ ['\n']) ∧
      '\n' ∉ gutter line ∧ '\n' ∉ underline ∧
      '^' ∈ underline ∧ underline.idxOf '^' = blankGutter.length + padding) ∧
    (gutter line).length = blankGutter.length + ((toString line).length - 4) ∧
    ((gutter line).length = blankGutter.length ↔ line ≤ 9999) ∧
    ∀ row : Row context.unit.text, row.Holds diagnostic.span.start → diagnostic.span.start < row.stop →
      shown[(gutter line).length + padding]? = context.unit.text[diagnostic.span.start]? ∧
        (line ≤ 9999 → shown[underline.idxOf '^']? = context.unit.text[diagnostic.span.start]?) := by
  intro line padding shown underline
  have placed := recorded_position call reporter context diagnostic recorded
  obtain ⟨caret, column⟩ := first_caret padding (caretCount context.unit diagnostic) (Nat.le_max_left 1 _)
  have level : (gutter line).length = blankGutter.length ↔ line ≤ 9999 :=
    (gutters_level line).trans Nat.lt_succ_iff
  refine ⟨⟨?_, gutter_single_line line, by simp [underline, blankGutter], caret, column⟩, ?_, level, ?_⟩
  · simp [present, layout, quotation, shown, underline, line, padding]
  · rw [Text.Numeral.decimal_text_length]
    exact gutter_length line
  · intro row holds on
    have there : line = context.unit.lines.lineOf diagnostic.span.start := congrArg Position.line placed
    have quoted : lineText context.unit line = row.line := by
      rw [there]
      exact line_text_row context.unit row _ holds
    have first : padding = diagnostic.span.start - row.front.length := by
      rw [← (LineTable.row_bounds context.unit.text row _ holds).1]
      exact congrArg (Position.column · - 1) placed
    have character : shown[(gutter line).length + padding]? = context.unit.text[diagnostic.span.start]? := by
      rw [List.getElem?_append_right (Nat.le_add_right _ _), Nat.add_sub_cancel_left, quoted, first]
      exact row.line_character _ holds.1 on
    refine ⟨character, fun few => ?_⟩
    rw [← character, level.mpr few]
    exact congrArg (shown[·]?) column

theorem underline_on_second_line :
    let unit := SourceUnit.ofText "A.java" 0 "a\nbc d\re"
    let call := Session.Call.handle ⟨0x2000026E, [], [], ⟨5, 7⟩⟩
    let diagnostic := Reporter.diagnose ⟨0x2000026E, [], [], ⟨5, 7⟩⟩ (.warning ||| .optional) (some unit)
    (call.outcome (.new .usual .proceed) (some (.opened unit .unit))).1.recorded = some diagnostic ∧
      (plain .text).present diagnostic (some unit) =
        "warning: Dead code [DeadCode]\n --> A.java:2:4\n   2 | bc d\n     |    ^\n" ∧
      "   2 | bc d".toList["     |    ^".toList.idxOf '^']? = unit.text[5]? := by
  intro unit call diagnostic
  have recorded : (call.outcome (.new .usual .proceed) (some (.opened unit .unit))).1.recorded = some diagnostic := by
    decide +kernel
  let row : Row unit.text :=
    ⟨['a', '\n'], ['b', 'c', ' ', 'd'], ['\r'], ['e'], by decide, by simp, by simp,
      .carriageReturn _ (by decide)⟩
  have shown : gutter diagnostic.position.line ++ lineText unit diagnostic.position.line = "   2 | bc d".toList := by
    decide +kernel
  have underline : blankGutter ++ List.replicate (diagnostic.position.column - 1) ' ' ++
      List.replicate (caretCount unit diagnostic) '^' = "     |    ^".toList := by
    decide +kernel
  have early : diagnostic.position.line ≤ 9999 := by decide +kernel
  obtain ⟨⟨output, _⟩, _, _, below⟩ := underline_below_start (plain .text) rfl call _ _ diagnostic recorded
  have character := (below row ⟨by decide, by decide⟩ (by decide)).2 early
  refine ⟨recorded, output.trans ?_, ?_⟩
  · decide +kernel
  · rw [← shown, ← underline]
    exact character

theorem unsuppressed (reporter : Reporter) (context : Context) (code : Code) (severity : Severity) (span : Span)
    (bare : context.unit.suppressions = []) : reporter.suppresses context code severity span = false := by
  unfold Reporter.suppresses SourceUnit.isSuppressed
  rw [bare]
  cases code.irritant? <;> simp

theorem letter_quoted (unit : SourceUnit) (feeds : Nat) (letters : unit.text = List.replicate feeds '\n' ++ ['a'])
    (diagnostic : Diagnostic) (span : diagnostic.span = ⟨feeds, feeds⟩)
    (placed : diagnostic.position = unit.position feeds) :
    unit.text[feeds]? = some 'a' ∧ diagnostic.position = ⟨feeds + 1, 1⟩ ∧
      quotation unit diagnostic =
        String.ofList (gutter (feeds + 1) ++ 'a' :: '\n' :: blankGutter ++ ['^', '\n']) := by
  have position : diagnostic.position = ⟨feeds + 1, 1⟩ := by
    rw [placed, SourceUnit.position, SourceUnit.lines, letters]
    exact LineTable.position_behind_feeds feeds ['a']
  have starts : ∀ c ∈ (List.replicate feeds '\n').getLast?, c = '\n' :=
    fun c last => List.eq_of_mem_replicate (List.mem_of_mem_getLast? last)
  let row : Row unit.text :=
    ⟨List.replicate feeds '\n', ['a'], [], [], letters, fun c last => .inl (starts c last), by simp, .textEnd⟩
  have stop : row.stop = feeds + 1 := by simp [Row.stop, row]
  have holds : row.Holds feeds := by simp [Row.Holds, Row.stop, row]
  have line : diagnostic.position.line = unit.lines.lineOf feeds := congrArg Position.line placed
  have text : lineText unit diagnostic.position.line = ['a'] := by
    rw [line]
    exact line_text_row unit row feeds holds
  have carets : caretCount unit diagnostic = 1 := by
    rw [caret_count_row unit diagnostic row (span ▸ holds) (span ▸ line), span,
      row.marked_eq _ (Nat.le_of_eq List.length_replicate), stop]
    simp [Row.Overrun, row]
  refine ⟨by simp [letters], position, ?_⟩
  rw [quotation, text, carets, position]
  simp

-- That the carets stand below what they mark does not hold on the first line whose number has five digits.
theorem underline_left_behind :
    let unit : SourceUnit := ⟨"A.java", 0, List.replicate 9999 '\n' ++ ['a'], []⟩
    let call := Session.Call.handle ⟨0x2000026E, [], [], ⟨9999, 9999⟩⟩
    let diagnostic := Reporter.diagnose ⟨0x2000026E, [], [], ⟨9999, 9999⟩⟩ (.warning ||| .optional) (some unit)
    (call.outcome (.new .usual .proceed) (some (.opened unit .unit))).1.recorded = some diagnostic ∧
      diagnostic.position = ⟨10000, 1⟩ ∧
      (plain .text).present diagnostic (some unit) =
        (plain .text).heading diagnostic ++ "10000 | a\n     | ^\n" ∧
      "10000 | a".toList["     | ^".toList.idxOf '^']? ≠ unit.text[9999]? := by
  intro unit call diagnostic
  have severity : Options.usual.severityOf 0x2000026E = .warning ||| .optional := by decide +kernel
  obtain ⟨letter, position, quoted⟩ := letter_quoted unit 9999 rfl diagnostic rfl rfl
  refine ⟨?_, position, ?_, ?_⟩
  · refine (Session.recorded_iff call _ _ diagnostic).mpr ⟨_, ⟨⟨?_, rfl⟩, nofun, ?_⟩, ?_⟩
    · exact (congrArg Severity.isIgnored severity).trans (by decide)
    · exact unsuppressed _ _ _ _ _ rfl
    · exact congrArg (Reporter.diagnose _ · _) severity
  · have lines : quotation unit diagnostic = "10000 | a\n     | ^\n" := quoted.trans (by decide +kernel)
    rw [← lines]
    rfl
  · rw [letter]
    decide +kernel

end Presentation

end JavaDiagnostics
