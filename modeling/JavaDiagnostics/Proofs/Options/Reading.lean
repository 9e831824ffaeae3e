import JavaDiagnostics.Proofs.Options.Order
import JavaDiagnostics.Proofs.Text.Split

set_option autoImplicit false

namespace JavaDiagnostics

namespace Options

def Space (text : List Char) : Prop := ∀ c ∈ text, Text.isBlank c = true ∧ c ≠ '\n'

-- An entry that can stand on a line: its key is told from a comment, from the value and from white space.
structure Plain (entry : String × String) : Prop where
  named : entry.1 ≠ ""
  trimmed : Text.trim entry.1 = entry.1
  unmarked : entry.1.toList.head? ≠ some '#' ∧ entry.1.toList.head? ≠ some '!'
  key : ∀ c ∈ entry.1.toList, c ≠ '=' ∧ c ≠ ':' ∧ c ≠ '\n'
  value : '\n' ∉ entry.2.toList

inductive Row : Option (String × String) → List Char → Prop where
  | blank (space : List Char) (white : Space space) : Row none space
  | comment (space text : List Char) (mark : Char) (white : Space space) (marked : mark = '#' ∨ mark = '!')
      (single : '\n' ∉ text) : Row none (space ++ mark :: text)
  | entry (key value : String) (separator : Char) (before behind between after : List Char)
      (separates : separator = '=' ∨ separator = ':') (front : Space before) (back : Space behind)
      (middle : Space between) (rear : Space after) : Row (some (key, value))
        (before ++ key.toList ++ behind ++ separator :: (between ++ value.toList ++ after))

-- A text that has these entries on its lines. The last line need not be ended.
inductive Writes : List (String × String) → List Char → Prop where
  | nothing : Writes [] []
  | last (item? : Option (String × String)) (row : List Char) (written : Row item? row) :
      Writes item?.toList row
  | row (item? : Option (String × String)) (row lineEnd : List Char) (settings : List (String × String))
      (rest : List Char) (written : Row item? row) (ended : lineEnd = ['\n'] ∨ lineEnd = ['\r', '\n'])
      (more : Writes settings rest) : Writes (item?.toList ++ settings) (row ++ lineEnd ++ rest)

def Unkeyed (content : List Char) : Prop :=
  (∀ c ∈ content, c ≠ '=' ∧ c ≠ ':') ∨
    ∃ space separator value, content = space ++ separator :: value ∧ (separator = '=' ∨ separator = ':') ∧
      ∀ c ∈ space, Text.isBlank c = true

structure Keyless (line : List Char) : Prop where
  visible : Text.trimChars line ≠ []
  unmarked : (Text.trimChars line).head? ≠ some '#' ∧ (Text.trimChars line).head? ≠ some '!'
  unkeyed : Unkeyed (Text.trimChars line)

theorem is_separator_iff (c : Char) : isSeparator c = true ↔ c = '=' ∨ c = ':' := by
  simp [isSeparator]

theorem blank_not_separator (c : Char) (blank : Text.isBlank c = true) : isSeparator c = false := by
  rw [Bool.eq_false_iff, ne_eq, is_separator_iff]
  rintro (rfl | rfl) <;> revert blank <;> decide

def keyed (content : List Char) : Line :=
  match content.dropWhile (!isSeparator ·) with
  | [] => .malformed (String.ofList content)
  | _ :: value =>
      match Text.trimChars (content.takeWhile (!isSeparator ·)) with
      | [] => .malformed (String.ofList content)
      | name => .entry (String.ofList name) (String.ofList (Text.trimChars value))

theorem drop_take_while (p : Char → Bool) (text : List Char) :
    text.drop (text.takeWhile p).length = text.dropWhile p :=
  calc text.drop (text.takeWhile p).length
      _ = (text.takeWhile p ++ text.dropWhile p).drop (text.takeWhile p).length := by
        rw [List.takeWhile_append_dropWhile]
      _ = text.dropWhile p := List.drop_left

theorem cut_at_separator (key value : List Char) (separator : Char)
    (separates : separator = '=' ∨ separator = ':') (free : ∀ c ∈ key, isSeparator c = false) :
    (key ++ separator :: value).takeWhile (!isSeparator ·) = key ∧
      (key ++ separator :: value).dropWhile (!isSeparator ·) = separator :: value := by
  have passed : ∀ c ∈ key, (!isSeparator c) = true := fun c member => by simp [free c member]
  have stops : (!isSeparator separator) = false := by simp [(is_separator_iff separator).mpr separates]
  exact Text.cut_front _ key (separator :: value) passed (by simpa using stops)

theorem keyed_entry (key value : List Char) (separator : Char) (separates : separator = '=' ∨ separator = ':')
    (free : ∀ c ∈ key, isSeparator c = false) (named : Text.trimChars key ≠ []) :
    keyed (key ++ separator :: value) =
      .entry (String.ofList (Text.trimChars key)) (String.ofList (Text.trimChars value)) := by
  obtain ⟨front, rest⟩ := cut_at_separator key value separator separates free
  unfold keyed
  rw [rest, front]
  dsimp only
  split
  · exact absurd ‹_› named
  · rfl

theorem keyed_malformed (content : List Char) (unkeyed : Unkeyed content) :
    keyed content = .malformed (String.ofList content) := by
  rcases unkeyed with absent | ⟨space, separator, value, rfl, separates, white⟩
  · have whole : content.dropWhile (!isSeparator ·) = [] := by
      rw [List.dropWhile_eq_nil_iff]
      intro c member
      simpa [isSeparator] using absent c member
    rw [keyed, whole]
  · obtain ⟨front, rest⟩ := cut_at_separator space value separator separates
      fun c member => blank_not_separator c (white c member)
    rw [keyed, rest, front, (Text.trim_chars_nil space).mpr white]

theorem unkeyed_of_malformed (content : List Char) (text : String) (malformed : keyed content = .malformed text) :
    Unkeyed content := by
  unfold keyed at malformed
  split at malformed
  next whole =>
    rw [List.dropWhile_eq_nil_iff] at whole
    refine .inl fun c member => ?_
    simpa [isSeparator] using whole c member
  next separator value rest =>
    split at malformed
    next nothing =>
      have separates := List.head?_dropWhile_not (!isSeparator ·) content
      rw [rest] at separates
      refine .inr ⟨_, separator, value, ?_, (is_separator_iff separator).mp (by simpa using separates),
        (Text.trim_chars_nil _).mp nothing⟩
      rw [← rest, List.takeWhile_append_dropWhile]
    next => cases malformed

theorem of_chars_keyed (line : List Char) (visible : Text.trimChars line ≠ [])
    (unmarked : (Text.trimChars line).head? ≠ some '#' ∧ (Text.trimChars line).head? ≠ some '!') :
    Line.ofChars line = keyed (Text.trimChars line) := by
  unfold Line.ofChars keyed
  generalize Text.trimChars line = content at visible unmarked
  dsimp only
  split
  · exact absurd rfl visible
  · exact absurd rfl unmarked.1
  · exact absurd rfl unmarked.2
  · rewrite [drop_take_while]
    rfl

theorem of_chars_skipped (line : List Char)
    (skipped : Text.trimChars line = [] ∨ (Text.trimChars line).head? = some '#' ∨
      (Text.trimChars line).head? = some '!') : Line.ofChars line = .skipped := by
  unfold Line.ofChars
  generalize Text.trimChars line = content at skipped
  cases content with
  | nil => rfl
  | cons first rest =>
      simp only [reduceCtorEq, List.head?_cons, Option.some.injEq, false_or] at skipped
      rcases skipped with rfl | rfl <;> rfl

theorem of_chars_same (first second : List Char) (same : Text.trimChars first = Text.trimChars second) :
    Line.ofChars first = Line.ofChars second := by
  unfold Line.ofChars
  rw [same]

theorem of_chars_keyless (line : List Char) (keyless : Keyless line) :
    Line.ofChars line = .malformed (String.ofList (Text.trimChars line)) := by
  rw [of_chars_keyed line keyless.visible keyless.unmarked, keyed_malformed _ keyless.unkeyed]

theorem keyless_of_malformed (line : List Char) (text : String) (malformed : Line.ofChars line = .malformed text) :
    Keyless line := by
  by_cases skipped : Text.trimChars line = [] ∨ (Text.trimChars line).head? = some '#' ∨
      (Text.trimChars line).head? = some '!'
  · rw [of_chars_skipped line skipped] at malformed
    cases malformed
  · simp only [not_or] at skipped
    rw [of_chars_keyed line skipped.1 skipped.2] at malformed
    exact ⟨skipped.1, skipped.2, unkeyed_of_malformed _ text malformed⟩

theorem Space.blank {text : List Char} (space : Space text) : ∀ c ∈ text, Text.isBlank c = true :=
  fun c member => (space c member).1

def Line.written : Option (String × String) → Line
  | none => .skipped
  | some (key, value) => .entry key (Text.trim value)

theorem entry_content (key value before behind between after : List Char) (separator : Char)
    (separates : separator = '=' ∨ separator = ':') (front : Space before) (first : Char)
    (head : key.head? = some first) (solid : Text.isBlank first = false) :
    Text.trimChars (before ++ key ++ behind ++ separator :: (between ++ value ++ after)) =
      key ++ behind ++ separator :: Text.trimEnd (between ++ value ++ after) := by
  have dark : Text.isBlank separator = false := by rcases separates with rfl | rfl <;> decide
  have begins : ∀ c ∈ (key ++ (behind ++ separator :: (between ++ value ++ after))).head?, Text.isBlank c = false := by
    intro c found
    rw [List.head?_append, head] at found
    obtain rfl := Option.some.inj found
    exact solid
  rw [List.append_assoc, List.append_assoc, Text.trimChars, Text.trim_start_padded before _ front.blank,
    Text.trim_start_solid _ begins, ← List.append_assoc]
  exact Text.trim_end_behind (key ++ behind) _ separator dark

theorem of_chars_row (item? : Option (String × String)) (row : List Char) (written : Row item? row)
    (plain : ∀ entry ∈ item?, Plain entry) : Line.ofChars row = .written item? := by
  cases written with
  | blank space white => exact of_chars_skipped row (.inl ((Text.trim_chars_nil row).mpr white.blank))
  | comment space text mark white marked single =>
      have solid : Text.isBlank mark = false := by rcases marked with rfl | rfl <;> decide
      have content : Text.trimChars (space ++ mark :: text) = mark :: Text.trimEnd text := by
        rw [Text.trimChars, Text.trim_start_padded space _ white.blank,
          Text.trim_start_solid _ (by simpa using solid)]
        exact Text.trim_end_behind [] text mark solid
      apply of_chars_skipped
      rw [content]
      simpa using marked
  | entry key value separator before behind between after separates front back middle rear =>
      obtain ⟨named, trimmed, unmarked, free, _⟩ := plain (key, value) rfl
      have own : Text.trimChars key.toList = key.toList := by rw [← Text.toList_trim, trimmed]
      have nonempty : key.toList ≠ [] := fun nothing => named (String.toList_eq_nil_iff.mp nothing)
      obtain ⟨first, head⟩ := Option.ne_none_iff_exists'.mp (mt List.head?_eq_none_iff.mp nonempty)
      have solid := Text.trim_chars_first key.toList first (by rw [own, head]; rfl)
      have content := entry_content key.toList value.toList before behind between after separator separates
        front first head solid
      have begins : (Text.trimChars (before ++ key.toList ++ behind ++
          separator :: (between ++ value.toList ++ after))).head? = key.toList.head? := by
        rw [content, List.append_assoc, List.head?_append, head]
        rfl
      have name : Text.trimChars (key.toList ++ behind) = key.toList := by
        have padded := Text.trim_chars_padded [] key.toList behind (by simp) back.blank
        rwa [own] at padded
      have unseparated : ∀ c ∈ key.toList ++ behind, isSeparator c = false := by
        intro c member
        rcases List.mem_append.mp member with inner | outer
        · have apart := free c inner
          simp [isSeparator, apart.1, apart.2.1]
        · exact blank_not_separator c (back.blank c outer)
      rw [of_chars_keyed _ (fun nothing => by rw [nothing, head] at begins; cases begins)
          (by rwa [begins]), content,
        keyed_entry _ _ separator separates unseparated (by rwa [name]), name, Text.trim_chars_end,
        Text.trim_chars_padded between _ after middle.blank rear.blank, String.ofList_toList]
      rfl

theorem lines_line (line rest : List Char) (single : '\n' ∉ line) :
    lines (line ++ '\n' :: rest) = line :: lines rest := by
  have front := Text.take_until '\n' line rest single
  have behind : (line ++ '\n' :: rest).drop line.length = '\n' :: rest := List.drop_left
  rw [lines.eq_def]
  split
  next nothing => simp at nothing
  next =>
    dsimp only
    split
    next nothing =>
      rw [front, behind] at nothing
      cases nothing
    next found =>
      rw [front, behind] at found
      rw [front, (List.cons.inj found).2]

theorem lines_last (line : List Char) (single : '\n' ∉ line) (nonempty : line ≠ []) : lines line = [line] := by
  have front := Text.take_whole '\n' line single
  rw [lines.eq_def]
  split
  next => exact absurd rfl nonempty
  next =>
    dsimp only
    split
    next => rw [front]
    next found =>
      rw [front, List.drop_length] at found
      cases found

theorem split_lines (text : List Char) :
    text.splitOn '\n' = lines text ∨ text.splitOn '\n' = lines text ++ [[]] := by
  induction size : text.length using Nat.strong_induction_on generalizing text with
  | h bound ih =>
      by_cases ended : '\n' ∈ text
      · obtain ⟨line, rest, rfl, single⟩ := List.eq_append_cons_of_mem ended
        rw [lines_line line rest single, List.splitOn_append_cons_self_of_not_mem single]
        have shorter : rest.length < bound := by
          simp only [← size, List.length_append, List.length_cons]
          omega
        exact (ih rest.length shorter rest rfl).imp (congrArg _) (congrArg _)
      · rw [List.splitOn_eq_singleton ended]
        by_cases nonempty : text = []
        · subst nonempty
          exact .inr (by rw [lines]; rfl)
        · exact .inl (lines_last text ended nonempty).symm

theorem entries_malformed (number place : Nat) (read : List Line) (content : String)
    (here : read[place]? = some (.malformed content))
    (first : ∀ earlier < place, ∀ other, read[earlier]? ≠ some (.malformed other)) :
    entries number read = .error (.malformed (number + place) content) := by
  induction read generalizing number place with
  | nil => cases here
  | cons line rest ih =>
      cases place with
      | zero =>
          obtain rfl := Option.some.inj here
          rfl
      | succ place =>
          have onward := ih (number + 1) place here fun earlier before other =>
            first (earlier + 1) (Nat.succ_lt_succ before) other
          rw [Nat.add_assoc, Nat.add_comm 1] at onward
          cases line with
          | skipped => exact onward
          | malformed other => exact absurd rfl (first 0 (Nat.succ_pos place) other)
          | entry key value =>
              rw [entries, onward]
              rfl

theorem entries_written (number : Nat) (item? : Option (String × String)) (read : List Line)
    (settings : List (String × String)) (behind : entries (number + 1) read = .ok settings) :
    entries number (Line.written item? :: read) =
      .ok (item?.toList.map (fun entry => (entry.1, Text.trim entry.2)) ++ settings) := by
  cases item? with
  | none => exact behind
  | some entry =>
      rw [Line.written, entries, behind]
      rfl

theorem space_single {space : List Char} (white : Space space) : '\n' ∉ space :=
  fun member => (white _ member).2 rfl

theorem row_single (item? : Option (String × String)) (row : List Char) (written : Row item? row)
    (plain : ∀ entry ∈ item?, Plain entry) : '\n' ∉ row := by
  cases written with
  | blank space white => exact space_single white
  | comment space text mark white marked own =>
      have other : '\n' ≠ mark := by rcases marked with rfl | rfl <;> decide
      simp only [List.mem_append, List.mem_cons, not_or]
      exact ⟨space_single white, other, own⟩
  | entry key value separator before behind between after separates front back middle rear =>
      obtain ⟨_, _, _, free, own⟩ := plain (key, value) rfl
      have other : '\n' ≠ separator := by rcases separates with rfl | rfl <;> decide
      simp only [List.mem_append, List.mem_cons, not_or]
      exact ⟨⟨⟨space_single front, fun member => (free _ member).2.2 rfl⟩, space_single back⟩, other,
        ⟨space_single middle, own⟩, space_single rear⟩

theorem entries_writes (settings : List (String × String)) (text : List Char) (writes : Writes settings text)
    (plain : ∀ entry ∈ settings, Plain entry) (number : Nat) :
    entries number ((lines text).map Line.ofChars) =
      .ok (settings.map fun entry => (entry.1, Text.trim entry.2)) := by
  induction writes generalizing number with
  | nothing =>
      rw [lines]
      rfl
  | last item? row written =>
      have own : ∀ entry ∈ item?, Plain entry := fun entry member => plain entry (by simpa using member)
      have read := of_chars_row item? row written own
      by_cases nonempty : row = []
      · subst nonempty
        have skipped := of_chars_skipped [] (.inl rfl)
        cases item? with
        | none =>
            rw [lines]
            rfl
        | some entry => cases skipped.symm.trans read
      · rw [lines_last row (row_single item? row written own) nonempty, List.map_singleton, read]
        have last := entries_written number item? [] [] rfl
        rwa [List.append_nil] at last
  | row item? row lineEnd settings rest written ended more ih =>
      have own : ∀ entry ∈ item?, Plain entry :=
        fun entry member => plain entry (List.mem_append_left _ (by simpa using member))
      have later := ih (fun entry member => plain entry (List.mem_append_right _ member)) (number + 1)
      -- A carriage return before the line feed is white space at the end of the line.
      obtain ⟨space, white, split⟩ : ∃ space, Space space ∧ lineEnd = space ++ ['\n'] := by
        rcases ended with rfl | rfl
        · exact ⟨[], by simp [Space], rfl⟩
        · exact ⟨['\r'], by simp [Space]; decide, rfl⟩
      have single : '\n' ∉ row ++ space := by
        rw [List.mem_append, not_or]
        exact ⟨row_single item? row written own, space_single white⟩
      have read : Line.ofChars (row ++ space) = .written item? := by
        have padded := Text.trim_chars_padded [] row space (by simp) white.blank
        rw [of_chars_same (row ++ space) row padded, of_chars_row item? row written own]
      have whole : row ++ lineEnd ++ rest = row ++ space ++ '\n' :: rest := by simp [split]
      rw [List.map_append, whole, lines_line _ rest single, List.map_cons, read]
      exact entries_written number item? _ _ later

theorem apply_trimmed (options : Options) (key value : String) :
    options.apply key (Text.trim value) = options.apply key value := by
  rw [apply, apply, Text.trim_twice]

theorem of_settings_trimmed (settings : List (String × String)) :
    ofSettings (settings.map fun entry => (entry.1, Text.trim entry.2)) = ofSettings settings := by
  rw [ofSettings, List.foldlM_map]
  simp only [apply_trimmed]
  rfl

theorem entries_keyless (number : Nat) (text line : List Char) (place : Nat)
    (here : (text.splitOn '\n')[place]? = some line) (keyless : Keyless line)
    (first : ∀ earlier < place, ∀ other ∈ (text.splitOn '\n')[earlier]?, ¬ Keyless other) :
    entries number ((lines text).map Line.ofChars) =
      .error (.malformed (number + place) (String.ofList (Text.trimChars line))) := by
  -- What is behind the lines is blank, and so the line is one of them.
  have same : ∀ index ≤ place, (lines text)[index]? = (text.splitOn '\n')[index]? := by
    intro index before
    rcases split_lines text with whole | whole
    · rw [whole]
    · have inside : place < (lines text).length := by
        by_contra outside
        rw [whole, List.getElem?_append_right (Nat.le_of_not_lt outside)] at here
        have nothing : line = [] := List.mem_singleton.mp (List.mem_of_getElem? here)
        exact keyless.visible (by rw [nothing]; rfl)
      rw [whole, List.getElem?_append_left (Nat.lt_of_le_of_lt before inside)]
  apply entries_malformed
  · rw [List.getElem?_map, same place (Nat.le_refl _), here, Option.map_some, of_chars_keyless line keyless]
  · intro earlier before other found
    rw [List.getElem?_map, same earlier (Nat.le_of_lt before), Option.map_eq_some_iff] at found
    obtain ⟨line, there, malformed⟩ := found
    exact first earlier before line there (keyless_of_malformed line other malformed)

theorem properties_read_exactly (text : String) :
    (∀ settings : List (String × String), (∀ entry ∈ settings, Plain entry) → Writes settings text.toList →
        ofProperties text = ofSettings settings) ∧
      ∀ (place : Nat) (line : List Char), (text.toList.splitOn '\n')[place]? = some line → Keyless line →
        (∀ earlier < place, ∀ other ∈ (text.toList.splitOn '\n')[earlier]?, ¬ Keyless other) →
        ofProperties text = .error (.malformed (place + 1) (String.ofList (Text.trimChars line))) := by
  constructor
  · intro settings plain writes
    rw [properties_settings text _ (entries_writes settings text.toList writes plain 1), of_settings_trimmed]
  · intro place line here keyless first
    rw [ofProperties, entries_keyless 1 text.toList line place here keyless first, Nat.add_comm 1]
    rfl

-- Separators and marks in a value and in comments. Then a line with white space for a key, behind one
-- whose value would be refused.
theorem marked_lines_read :
    let key := (Setting.annotationName .nonNull).key
    let entry := (key, "a=b#c ")
    let text := "# k: v\r\n\n\t" ++ key ++ " : a=b#c \r\n !"
    let source := (Setting.conformance .source).key
    let other := source ++ " = none\n# x\n : y\n="
    (Plain entry ∧ Writes [entry] text.toList ∧ ofProperties text = ofSettings [entry]) ∧
      (other.toList.splitOn '\n')[2]? = some " : y".toList ∧ Keyless " : y".toList ∧
      ofProperties other = .error (.malformed 3 ": y") := by
  intro key entry text source other
  have free : key.toList.all (fun c => c != '=' && (c != ':' && c != '\n')) = true := by decide +kernel
  have plain : Plain entry := by
    refine ⟨by decide +kernel, by decide +kernel, by decide +kernel, ?_, by decide +kernel⟩
    intro c member
    simpa using List.all_eq_true.mp free c member
  have writes : Writes [entry] text.toList := by
    have split : text.toList = [] ++ '#' :: " k: v".toList ++ ['\r', '\n'] ++ ([] ++ ['\n'] ++
        (['\t'] ++ key.toList ++ [' '] ++ ':' :: ([' '] ++ "a=b#c ".toList ++ []) ++ ['\r', '\n'] ++
          ([' '] ++ '!' :: []))) := by decide +kernel
    have space : Space [' '] ∧ Space ['\t'] ∧ Space [] := by simp [Space]; decide
    rw [split]
    refine .row none _ _ [entry] _ (.comment [] _ '#' space.2.2 (.inl rfl) (by decide)) (.inr rfl) ?_
    refine .row none [] _ [entry] _ (.blank [] space.2.2) (.inl rfl) ?_
    refine .row (some entry) _ _ [] _ (.entry key "a=b#c " ':' _ _ _ _ (.inr rfl) space.2.1 space.1 space.1
      space.2.2) (.inr rfl) ?_
    exact .last none _ (.comment _ _ '!' space.1 (.inr rfl) (by simp))
  have keyless : Keyless " : y".toList :=
    ⟨by decide, by decide, .inr ⟨[], ':', " y".toList, by decide, .inr rfl, by simp⟩⟩
  have here : (other.toList.splitOn '\n')[2]? = some " : y".toList := by decide +kernel
  have first : ∀ earlier < 2, ∀ line ∈ (other.toList.splitOn '\n')[earlier]?, ¬ Keyless line := by
    intro earlier before line found keyless
    have malformed := of_chars_keyless line keyless
    have read : ∀ earlier < 2, ∀ line ∈ (other.toList.splitOn '\n')[earlier]?,
        Line.ofChars line ≠ .malformed (String.ofList (Text.trimChars line)) := by decide +kernel
    exact read earlier before line found malformed
  have alike := (properties_read_exactly text).1 [entry] (by simpa using plain) writes
  have refused := (properties_read_exactly other).2 2 _ here keyless first
  have content : String.ofList (Text.trimChars " : y".toList) = ": y" := by decide +kernel
  rw [content] at refused
  exact ⟨⟨plain, writes, alike⟩, here, keyless, refused⟩

end Options

end JavaDiagnostics
