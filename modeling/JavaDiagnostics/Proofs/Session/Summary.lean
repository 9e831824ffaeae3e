import JavaDiagnostics.Proofs.Collection.Summary
import JavaDiagnostics.Proofs.Collection.Units
import JavaDiagnostics.Proofs.Session.Contexts

set_option autoImplicit false

namespace JavaDiagnostics.Session

def Call.isClassified : Call → Bool
  | handleWith _ _ => false
  | _ => true

-- Calls that choose no severity, and whatever else happens between them but additions from elsewhere.
def Event.isClassified : Event → Bool
  | .called call _ => call.isClassified
  | .added _ _ => false
  | _ => true

def tally (handed : Nat) : Event × Answer → Nat
  | (.cleared, _) => 0
  | (_, answer) => if answer.recorded.isSome then handed + 1 else handed

def handedSinceCleared (session : Session) (events : List Event) : Nat :=
  (events.zip (session.run events).2).foldl tally 0

theorem recorded_clear (call : Call) (reporter : Reporter) (context : Option Context) (diagnostic : Diagnostic)
    (classified : call.isClassified = true)
    (recorded : (call.outcome reporter context).1.recorded = some diagnostic) : diagnostic.IsClear := by
  have unmixed : (call.severity reporter.options).isMixed = false := by
    cases call with
    | report r => exact reporter.options.severity_of_unmixed r.code
    | handle description => exact reporter.options.severity_of_unmixed description.code
    | handleWith description severity => cases classified
  cases context with
  | none =>
      rw [adrift_records_nothing] at recorded
      cases recorded
  | some context =>
      obtain ⟨description, records, rfl⟩ := (recorded_iff call reporter context diagnostic).mp recorded
      exact ⟨records.raised.loud, unmixed, rfl⟩

theorem step_clear (session : Session) (event : Event) (classified : event.isClassified = true)
    (clear : ∀ diagnostic ∈ session.collection.kept, diagnostic.IsClear) :
    ∀ diagnostic ∈ (session.step event).1.collection.kept, diagnostic.IsClear := by
  intro diagnostic member
  cases event with
  | called call place =>
      rw [called_collection] at member
      cases recorded : (session.step (.called call place)).2.recorded with
      | none =>
          rw [recorded] at member
          exact clear diagnostic member
      | some added =>
          rw [recorded] at member
          rcases session.collection.receive_member ⟨added, added.mandatory⟩ diagnostic member with held | rfl
          · exact clear diagnostic held
          · exact recorded_clear call session.reporter (session.at? place) diagnostic classified recorded
  | sorted => exact clear diagnostic (List.mem_mergeSort.mp member)
  | cleared => cases member
  | opened unit scope => exact clear diagnostic member
  | entered place scope => exact clear diagnostic member
  | tagged place => exact clear diagnostic member
  | added other mandatory => cases classified

theorem run_clear (session : Session) (events : List Event)
    (classified : ∀ event ∈ events, event.isClassified = true)
    (clear : ∀ diagnostic ∈ session.collection.kept, diagnostic.IsClear) :
    ∀ diagnostic ∈ (session.run events).1.collection.kept, diagnostic.IsClear := by
  induction events generalizing session with
  | nil => exact clear
  | cons event rest ih =>
      have first := step_clear session event (classified event List.mem_cons_self) clear
      exact ih (session.step event).1 (fun next member => classified next (List.mem_cons_of_mem event member)) first

theorem step_total (session : Session) (event : Event) (classified : event.isClassified = true) :
    (session.step event).1.collection.kept.length + (session.step event).1.collection.dropped =
      tally (session.collection.kept.length + session.collection.dropped) (event, (session.step event).2) := by
  cases event with
  | called call place =>
      rw [called_collection]
      cases recorded : (session.step (.called call place)).2.recorded with
      | none => simp only [tally, recorded, Option.isSome_none, Bool.false_eq_true, if_false]
      | some diagnostic =>
          simp only [tally, recorded, Option.isSome_some, if_true]
          exact session.collection.receive_total ⟨diagnostic, diagnostic.mandatory⟩
  | sorted =>
      have same : (session.step .sorted).1.collection.kept.length = session.collection.kept.length :=
        List.length_mergeSort session.collection.kept
      rw [same]
      rfl
  | cleared => rfl
  | opened unit scope => rfl
  | entered place scope => rfl
  | tagged place => rfl
  | added other mandatory => cases classified

theorem run_total (session : Session) (events : List Event)
    (classified : ∀ event ∈ events, event.isClassified = true) :
    (session.run events).1.collection.kept.length + (session.run events).1.collection.dropped =
      (events.zip (session.run events).2).foldl tally
        (session.collection.kept.length + session.collection.dropped) := by
  induction events generalizing session with
  | nil => rfl
  | cons event rest ih =>
      have first := step_total session event (classified event List.mem_cons_self)
      have later := ih (session.step event).1 fun next member => classified next (List.mem_cons_of_mem event member)
      rw [first] at later
      exact later

theorem summary_accounts (options : Options) (policy : Policy) (limit : Nat) (events : List Event)
    (classified : ∀ event ∈ events, event.isClassified = true) :
    let collection := (reached options policy limit events).collection
    let summary := Summary.ofCollection collection
    summary.total = collection.kept.length ∧
    summary.total = summary.errors + summary.warnings + summary.infos ∧
    summary.errors = collection.errors.length ∧ summary.warnings = collection.warnings.length ∧
    summary.infos = collection.infos.length ∧
    summary.mandatory = (collection.kept.filter fun diagnostic =>
      diagnostic.severity.isError && !diagnostic.severity.isOptional).length ∧
    summary.byCategory = collection.groups.map (fun group => (group.1, group.2.length)) ∧
    Summary.countTotal summary.byCategory = summary.total ∧
    summary.total + summary.dropped = handedSinceCleared (start (.new options policy) limit) events := by
  intro collection summary
  have clear : ∀ diagnostic ∈ collection.kept, diagnostic.IsClear :=
    run_clear (start (.new options policy) limit) events classified fun _ absent => by cases absent
  refine ⟨rfl, Summary.level_counts collection.kept, List.countP_eq_length_filter, ?_, ?_, ?_,
    Summary.groups_counted collection, Summary.category_counts_total collection.kept, ?_⟩
  · exact Summary.count_as_list _ _ _ fun diagnostic member => (clear diagnostic member).warning
  · exact Summary.count_as_list _ _ _ fun diagnostic member => (clear diagnostic member).info
  · exact Summary.count_as_list _ _ _ fun diagnostic member => (clear diagnostic member).marked.symm
  · exact run_total (start (.new options policy) limit) events classified

theorem dropped_warning_accounted :
    let unit := SourceUnit.ofText "A.java" 0 "import b.C;"
    let unused := Call.handle ⟨.unusedImport, ["b.C"], ["b.C"], ⟨7, 9⟩⟩
    let unknown := Call.handle ⟨.importNotFound, ["b"], ["b"], ⟨7, 7⟩⟩
    let events : List Event :=
      [.opened unit .unit, .called unused (some 0), .cleared, .called unused (some 0), .called unused (some 0),
       .sorted, .called unknown (some 0)]
    let summary := Summary.ofCollection (reached .usual .proceed 1 events).collection
    summary.total + summary.dropped = 3 ∧ summary.total = 2 ∧ summary.errors = 1 ∧
      summary.errors + summary.warnings + summary.infos = 2 := by
  intro unit unused unknown events summary
  obtain ⟨_, levels, _, _, _, _, _, _, handed⟩ := summary_accounts .usual .proceed 1 events (by decide)
  have total : summary.total = 2 := by decide +kernel
  exact ⟨handed.trans (by decide), total, by decide +kernel, levels.symm.trans total⟩

end JavaDiagnostics.Session
