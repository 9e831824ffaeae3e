import JavaDiagnostics.Options.Reading
import JavaDiagnostics.Proofs.Json.Members
import JavaDiagnostics.Proofs.Options.Applying

set_option autoImplicit false

namespace JavaDiagnostics

namespace Options

theorem assign_comm (options : Options) (first second : Assignment) (apart : first.setting ≠ second.setting) :
    (options.assign first).assign second = (options.assign second).assign first := by
  refine stored_ext _ _ fun setting => ?_
  simp only [stored_assign]
  by_cases same : setting = first.setting
  · subst same
    simp only [if_neg apart, if_true]
  · simp only [if_neg same]

theorem given_comm (options : Options) (first second : Option Assignment)
    (apart : ∀ a ∈ first, ∀ b ∈ second, a.setting ≠ b.setting) :
    (options.given first).given second = (options.given second).given first := by
  cases first with
  | none => rfl
  | some a =>
      cases second with
      | none => rfl
      | some b => exact options.assign_comm a b (apart a rfl b rfl)

def load (options : Options) (entries : List (String × String)) : Option Options :=
  (entries.foldlM (fun (built : Options) (key, value) => built.apply key value) options).toOption

theorem load_nil (options : Options) : options.load [] = some options := rfl

theorem load_cons (options : Options) (entry : String × String) (rest : List (String × String)) :
    options.load (entry :: rest) =
      (reading entry.1 entry.2).toOption.bind fun assignment? => (options.given assignment?).load rest := by
  unfold load
  rw [List.foldlM_cons]
  dsimp only
  rw [apply_reading]
  cases reading entry.1 entry.2 <;> rfl

theorem load_known (options : Options) (setting : Setting) (value : String) (assignment : Assignment)
    (rest : List (String × String)) (taken : setting.assign? (Text.trim value) = some assignment) :
    options.load ((setting.key, value) :: rest) = (options.assign assignment).load rest := by
  have read : reading setting.key value = .ok (some assignment) := by
    simp only [reading, setting.key_trimmed, setting.of_key_key, taken]
  rw [load_cons, read]
  rfl

theorem load_some (options : Options) (entries : List (String × String))
    (loaded : usual.load entries = some options) : ofSettings entries = .ok options := by
  have taken : (ofSettings entries).toOption = some options := loaded
  cases built : ofSettings entries with
  | error cause =>
      rw [built] at taken
      cases taken
  | ok same =>
      rw [built] at taken
      exact congrArg Except.ok (Option.some.inj taken)

theorem load_swap (options : Options) (first second : String × String) (rest : List (String × String))
    (apart : Text.trim first.1 ≠ Text.trim second.1) :
    options.load (first :: second :: rest) = options.load (second :: first :: rest) := by
  simp only [load_cons]
  cases one : reading first.1 first.2 with
  | error cause => cases reading second.1 second.2 <;> rfl
  | ok first? =>
      cases two : reading second.1 second.2 with
      | error cause => rfl
      | ok second? =>
          have different : ∀ a ∈ first?, ∀ b ∈ second?, a.setting ≠ b.setting := by
            rintro a rfl b rfl same
            have here := of_key_some _ _ (reading_some first.1 first.2 a one).1
            have there := of_key_some _ _ (reading_some second.1 second.2 b two).1
            exact apart (here.symm.trans ((congrArg Setting.key same).trans there))
          exact congrArg (load · rest) (options.given_comm first? second? different)

theorem load_perm (options : Options) (first second : List (String × String)) (perm : first.Perm second)
    (apart : (first.map fun entry => Text.trim entry.1).Nodup) : options.load first = options.load second := by
  induction perm generalizing options with
  | nil => rfl
  | cons entry perm ih =>
      rw [load_cons, load_cons]
      exact congrArg _ (funext fun assignment? => ih _ (List.nodup_cons.mp apart).2)
  | swap a b rest =>
      have different := (List.nodup_cons.mp apart).1
      rw [List.map_cons, List.mem_cons, not_or] at different
      exact options.load_swap b a rest different.1
  | trans perm next ih later =>
      rw [ih options apart]
      exact later options ((perm.map _).nodup_iff.mp apart)

def trimmed (entry : String × String) : String × String := (Text.trim entry.1, Text.trim entry.2)

theorem load_trimmed (options : Options) (settings : List (String × String)) :
    options.load (settings.map trimmed) = options.load settings := by
  induction settings generalizing options with
  | nil => rfl
  | cons entry rest ih =>
      have same : reading (Text.trim entry.1) (Text.trim entry.2) = reading entry.1 entry.2 := by
        simp only [reading, Text.trim_twice]
      rw [List.map_cons, load_cons, load_cons, trimmed, same]
      exact congrArg _ (funext fun assignment? => ih _)

theorem self_beq (options : Options) : (options == options) = true := by
  have parts : (options == options) =
      (Irritant.all.all (fun irritant => options.chosen irritant == options.chosen irritant) &&
        Flag.all.all (fun f => options.flag f == options.flag f) &&
        Threshold.all.all (fun t => options.threshold t == options.threshold t) &&
        Conformance.all.all (fun c => options.conformance c == options.conformance c) &&
        options.tagDescription == options.tagDescription &&
        NullMark.all.all (fun mark => options.annotationName mark == options.annotationName mark)) := rfl
  simp [parts]

def Alike : Except SettingsError Options → Except SettingsError Options → Prop
  | .ok first, .ok second => first = second ∧ (first == second) = true
  | .error _, .error _ => True
  | _, _ => False

theorem alike_of_same (first second : Except SettingsError Options) (same : first.toOption = second.toOption) :
    Alike first second := by
  cases first with
  | error cause =>
      cases second with
      | error other => trivial
      | ok options => cases same
  | ok options =>
      cases second with
      | error cause => cases same
      | ok others =>
          obtain rfl := Option.some.inj same
          exact ⟨rfl, options.self_beq⟩

theorem trimmed_keys (settings : List (String × String)) :
    ((settings.map trimmed).map fun entry => Text.trim entry.1) = settings.map fun entry => Text.trim entry.1 := by
  rw [List.map_map]
  exact List.map_congr_left fun entry _ => Text.trim_twice entry.1

theorem settings_alike (first second : List (String × String))
    (perm : (first.map trimmed).Perm (second.map trimmed))
    (apart : (second.map fun entry => Text.trim entry.1).Nodup) :
    Alike (ofSettings second) (ofSettings first) := by
  apply alike_of_same
  have order := usual.load_perm (second.map trimmed) (first.map trimmed) perm.symm (by rwa [trimmed_keys])
  rw [load_trimmed, load_trimmed] at order
  exact order

theorem members_mapM (entries : List (String × String)) :
    ((entries.map Json.Value.member).mapM fun (key, value) => memberText key value) = .ok entries := by
  induction entries with
  | nil => rfl
  | cons entry rest ih =>
      rw [List.map_cons, List.mapM_cons, ih]
      rfl

theorem properties_settings (text : String) (settings : List (String × String))
    (listed : entries 1 ((lines text.toList).map Line.ofChars) = .ok settings) :
    ofProperties text = ofSettings settings := by
  rw [ofProperties, listed]
  rfl

theorem json_settings (json : String) (written : List (String × String))
    (texts : (Json.Document.read json).bind Json.Document.texts? = some written)
    (apart : (written.map Prod.fst).Nodup) :
    ∃ entries, entries.Perm written ∧ ofJson json = ofSettings entries := by
  obtain ⟨entries, order, read⟩ := Json.Document.read_object json written texts apart
  refine ⟨entries, order, ?_⟩
  unfold ofJson
  rw [read]
  dsimp only
  rw [members_mapM]
  rfl

theorem order_of_settings_free (settings : List (String × String))
    (apart : (settings.map fun entry => Text.trim entry.1).Nodup) :
    (∀ other : List (String × String), other.Perm settings → Alike (ofSettings settings) (ofSettings other)) ∧
      ∀ (text json : String) (written : List (String × String)),
        entries 1 ((lines text.toList).map Line.ofChars) = .ok settings →
        (Json.Document.read json).bind Json.Document.texts? = some written →
        (written.map trimmed).Perm (settings.map trimmed) →
        Alike (ofProperties text) (ofJson json) := by
  refine ⟨fun other perm => settings_alike other settings (perm.map trimmed) apart, ?_⟩
  intro text json written listed texts same
  have keys : (written.map fun entry => Text.trim entry.1).Nodup := by
    rw [← trimmed_keys] at apart ⊢
    exact (same.map _).nodup_iff.mpr apart
  have raw : (written.map Prod.fst).Nodup := by
    refine List.Nodup.of_map Text.trim ?_
    rwa [List.map_map]
  obtain ⟨members, order, loaded⟩ := json_settings json written texts raw
  rw [properties_settings text settings listed, loaded]
  exact settings_alike members settings ((order.map trimmed).trans same) apart

theorem lines_and_members_agree :
    let source := (Setting.conformance .source).key
    let comments := (Setting.flag .docComments).key
    let text := "# levels\n" ++ source ++ ": +11\n" ++ comments ++ " = true\n"
    let json := "\x7b\"" ++ comments ++ "\":\"true\", \"" ++ source ++ "\":\" +11\"\x7d"
    (entries 1 ((lines text.toList).map Line.ofChars) = .ok [(source, "+11"), (comments, "true")]) ∧
      (Json.Document.read json).bind Json.Document.texts? = some [(comments, "true"), (source, " +11")] ∧
      ∃ options, ofProperties text = .ok options ∧ ofJson json = .ok options := by
  intro source comments text json
  have listed : entries 1 ((lines text.toList).map Line.ofChars) =
      .ok [(source, "+11"), (comments, "true")] := by decide +kernel
  have texts : (Json.Document.read json).bind Json.Document.texts? =
      some [(comments, "true"), (source, " +11")] := by decide +kernel
  have same : ([(comments, "true"), (source, " +11")].map trimmed).Perm
      ([(source, "+11"), (comments, "true")].map trimmed) := by decide +kernel
  have level : (Setting.conformance .source).assign? (Text.trim "+11") = some (.conformance .source ⟨11⟩) := by
    decide +kernel
  have flag : (Setting.flag .docComments).assign? (Text.trim "true") = some (.flag .docComments true) := by
    decide +kernel
  have taken : ofSettings [(source, "+11"), (comments, "true")] =
      .ok (usual.assign (.conformance .source ⟨11⟩) |>.assign (.flag .docComments true)) := by
    apply load_some
    rw [load_known _ _ _ _ _ level, load_known _ _ _ _ _ flag, load_nil]
  obtain ⟨_, alike⟩ := order_of_settings_free [(source, "+11"), (comments, "true")] (by decide +kernel)
  have agree := alike text json _ listed texts same
  have lines := (properties_settings text _ listed).trans taken
  rw [lines] at agree
  refine ⟨listed, texts, _, lines, ?_⟩
  cases loaded : ofJson json with
  | error cause =>
      rw [loaded] at agree
      cases agree
  | ok options =>
      rw [loaded] at agree
      exact congrArg Except.ok agree.1.symm

end Options

end JavaDiagnostics
