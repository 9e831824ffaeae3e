import JavaDiagnostics.Encoding
import JavaDiagnostics.Proofs.Options.Applying
import JavaDiagnostics.Proofs.Session.Levels

set_option autoImplicit false

namespace JavaDiagnostics

def Options.everyLevel (options : Options) (irritant : Irritant) : Option Level := some (options.level irritant)

namespace Session

theorem severity_settled (options : Options) (call : Call) :
    call.severity (options.releveled options.everyLevel) = call.severity options := by
  cases call <;> rfl

theorem outcome_settled (call : Call) (reporter : Reporter) (context : Option Context) :
    call.outcome (reporter.releveled reporter.options.everyLevel) context =
      ((call.outcome reporter context).1,
        (call.outcome reporter context).2.releveled reporter.options.everyLevel) :=
  outcome_releveled call reporter _ context (severity_settled reporter.options call)

theorem run_settled (session : Session) (events : List Event) :
    (session.releveled session.reporter.options.everyLevel).run events =
      ((session.run events).1.releveled session.reporter.options.everyLevel, (session.run events).2) :=
  run_releveled session _ events fun call _ _ => severity_settled session.reporter.options call

theorem reload_keeps_behaviour (preset : Options.Preset) (changes : List Options.Change)
    (entries : List (String × String))
    (listed : entries.Perm (Options.reached preset changes).toSettings) :
    let options := Options.reached preset changes
    (options.source.IsReleased →
      ∃ again, Options.ofSettings entries = .ok again ∧ again.toSettings = options.toSettings ∧
        ((again == options) = true ↔ ∀ irritant, options.chosen irritant ≠ none) ∧
        (∀ (policy : Policy) (context : Option Context) (call : Call),
          (call.outcome (.new again policy) context).1 = (call.outcome (.new options policy) context).1) ∧
        ∀ (policy : Policy) (limit : Nat) (events : List Event),
          let saved := (start (.new options policy) limit).run events
          let loaded := (start (.new again policy) limit).run events
          loaded.2 = saved.2 ∧ loaded.1.contexts = saved.1.contexts ∧
            loaded.1.collection = saved.1.collection ∧ loaded.1.handed = saved.1.handed) ∧
    (¬ options.source.IsReleased →
      Options.ofSettings entries = .error (.invalidLevel Conformance.source.key options.source.describe)) ∧
    ((∀ level, Options.Change.source level ∈ changes → level.IsReleased) → options.source.IsReleased) := by
  intro options
  refine ⟨fun released => ?_, fun unreleased => ?_, fun given => ?_⟩
  · have storable : options.IsStorable := Options.reached_storable preset changes released
    refine ⟨options.settled, options.reload_settles storable entries listed, options.settled_settings,
      options.settled_beq, ?_, ?_⟩
    · intro policy context call
      have same := congrArg Prod.fst (outcome_settled call (.new options policy) context)
      exact same
    · intro policy limit events
      have same := run_settled (start (.new options policy) limit) events
      have answers := congrArg Prod.snd same
      have contexts := congrArg (·.1.contexts) same
      have collection := congrArg (·.1.collection) same
      have handed := congrArg (·.1.handed) same
      exact ⟨answers, contexts, collection, handed⟩
  · exact options.reload_refused (Options.reached_reads_others preset changes) unreleased entries listed
  · exact Options.reached_reads_back preset changes (.conformance .source) fun _ => given

-- A refused level changes nothing, and the settings are read backwards. What is loaded is not equal to
-- what was saved: unused imports warn by default, and the level was not set.
theorem reload_after_refusal :
    let options := Options.reached .usual [.apply Conformance.source.key "99", .severity .tasks .error]
    ∃ again, Options.ofSettings options.toSettings.reverse = .ok again ∧
      again.toSettings = options.toSettings ∧ (again == options) = false ∧
      ∀ (policy : Policy) (context : Option Context) (call : Call),
        (call.outcome (.new again policy) context).1 = (call.outcome (.new options policy) context).1 := by
  intro options
  have refused : Options.usual.apply Conformance.source.key "99" =
      .error (.invalidLevel Conformance.source.key (Text.trim "99")) := by
    have unread : JavaLevel.read (Text.trim "99") = none := by decide +kernel
    rw [show Conformance.source.key = (Setting.conformance .source).key from rfl, Options.apply_known]
    simp only [Setting.assign?, unread]
    rfl
  have unset : options.chosen .unusedImport = none := by
    show (((Options.usual.change (.apply Conformance.source.key "99")).change
      (.severity .tasks .error)).chosen .unusedImport) = none
    simp only [Options.change, refused]
    rfl
  obtain ⟨loaded, _, released⟩ := reload_keeps_behaviour .usual
    [.apply Conformance.source.key "99", .severity .tasks .error] options.toSettings.reverse
    (List.reverse_perm _)
  obtain ⟨again, read, settings, equal, outcomes, _⟩ := loaded (released (by simp))
  refine ⟨again, read, settings, ?_, outcomes⟩
  exact Bool.eq_false_iff.mpr fun same => equal.mp same .unusedImport unset

-- That options survive does not hold of a source level that is yet to be released. It can be had from a document.
theorem unreleased_level_refused :
    let options := Options.reached .usual [.source ⟨26⟩]
    JavaLevel.ofJson? (.number ⟨false, ['2', '6'], [], none⟩) = some ⟨26⟩ ∧
      options.toSettings.lookup Conformance.source.key = some "26" ∧
      Options.ofSettings options.toSettings = .error (.invalidLevel Conformance.source.key "26") := by
  intro options
  have written : options.source.describe = "26" := by decide +kernel
  refine ⟨by decide +kernel, ?_, ?_⟩
  · rw [Options.settings_lookup, show Conformance.source.key = (Setting.conformance .source).key from rfl,
      Setting.of_key_key]
    exact congrArg some written
  · rw [← written]
    exact options.reload_refused (Options.reached_reads_others .usual [.source ⟨26⟩]) (by decide) _ (.refl _)

end Session

end JavaDiagnostics
