import JavaDiagnostics.Proofs.Collection.Limit

set_option autoImplicit false

namespace JavaDiagnostics.Collection

inductive Change where
  | added (addition : Addition)
  | cleared

def change (collection : Collection) : Change → Collection
  | .added addition => collection.receive addition
  | .cleared => collection.clear

def changeAll (collection : Collection) (changes : List Change) : Collection :=
  changes.foldl change collection

def sinceCleared (earlier : List Addition) : List Change → List Addition
  | [] => earlier
  | .added addition :: rest => sinceCleared (earlier ++ [addition]) rest
  | .cleared :: rest => sinceCleared [] rest

def Counted (collection : Collection) : Prop :=
  ∀ unit, collection.count unit = collection.kept.countP fun diagnostic => unitOf diagnostic = unit

theorem receive_counted (collection : Collection) (addition : Addition) (counted : collection.Counted) :
    (collection.receive addition).Counted := by
  intro unit
  rw [receive_count, receive_eq, counted unit]
  cases collection.accepts addition with
  | false => rfl
  | true =>
      by_cases own : unitOf addition.diagnostic = unit
      · simp [List.countP_append, Addition.isOf, Addition.unit, own]
      · simp [List.countP_append, Addition.isOf, Addition.unit, own]

theorem receive_total (collection : Collection) (addition : Addition) :
    (collection.receive addition).kept.length + (collection.receive addition).dropped =
      collection.kept.length + collection.dropped + 1 := by
  rw [receive_eq]
  cases collection.accepts addition with
  | false => simp [Nat.add_assoc]
  | true => simp [Nat.add_right_comm]

theorem receive_all_counted (collection : Collection) (additions : List Addition) (counted : collection.Counted) :
    (collection.receiveAll additions).Counted := by
  induction additions generalizing collection with
  | nil => exact counted
  | cons addition rest ih => exact ih (collection.receive addition) (receive_counted collection addition counted)

theorem receive_all_total (collection : Collection) (additions : List Addition) :
    (collection.receiveAll additions).kept.length + (collection.receiveAll additions).dropped =
      collection.kept.length + collection.dropped + additions.length := by
  induction additions generalizing collection with
  | nil => rfl
  | cons addition rest ih =>
      have later := ih (collection.receive addition)
      rw [receive_total] at later
      rw [List.length_cons, Nat.add_comm rest.length, ← Nat.add_assoc]
      exact later

theorem receive_all_limit (collection : Collection) (additions : List Addition) :
    (collection.receiveAll additions).limit = collection.limit := by
  induction additions generalizing collection with
  | nil => rfl
  | cons addition rest ih => exact (ih (collection.receive addition)).trans (receive_limit collection addition)

theorem accepted_sublist (collection : Collection) (additions : List Addition) :
    (collection.accepted additions).Sublist additions := by
  induction additions generalizing collection with
  | nil => exact List.Sublist.refl []
  | cons addition rest ih =>
      rw [accepted]
      split
      · exact (ih (collection.receive addition)).cons_cons addition
      · exact (ih (collection.receive addition)).cons addition

-- A clearing leaves nothing behind, so that only what is added after the last one counts.
theorem change_all_eq (limit : Nat) (earlier : List Addition) (changes : List Change) :
    ((empty limit).receiveAll earlier).changeAll changes =
      (empty limit).receiveAll (sinceCleared earlier changes) := by
  induction changes generalizing earlier with
  | nil => rfl
  | cons event rest ih =>
      cases event with
      | added addition =>
          have next : (empty limit).receiveAll (earlier ++ [addition]) =
              ((empty limit).receiveAll earlier).receive addition := by
            simp [receiveAll]
          rw [sinceCleared, ← ih, next]
          rfl
      | cleared =>
          have fresh : ((empty limit).receiveAll earlier).clear = empty limit := by
            rw [clear, receive_all_limit]
            rfl
          change ((empty limit).receiveAll earlier).clear.changeAll rest = _
          rw [fresh]
          exact ih []

theorem accepted_alone (limit : Nat) (additions : List Addition) (unit : String) :
    ((empty limit).accepted additions).filter (·.isOf unit) =
      (empty limit).accepted (additions.filter (·.isOf unit)) := by
  have alone : ((empty limit).accepted (additions.filter (·.isOf unit))).filter (·.isOf unit) =
      (empty limit).accepted (additions.filter (·.isOf unit)) := by
    refine List.filter_eq_self.mpr fun addition member => ?_
    exact (List.mem_filter.mp ((accepted_sublist _ _).subset member)).2
  rw [← alone, accepted_of_unit, accepted_of_unit, List.filter_filter]
  simp only [Bool.and_self]

theorem units_apart (limit : Nat) (changes : List Change) :
    let collection := (empty limit).changeAll changes
    let additions := sinceCleared [] changes
    (∀ unit, collection.count unit = collection.kept.countP fun diagnostic => unitOf diagnostic = unit) ∧
    collection.kept.length + collection.dropped = additions.length ∧
    collection.kept.Sublist (additions.map (·.diagnostic)) ∧
    ∀ unit, (collection.kept.filter fun diagnostic => unitOf diagnostic = unit) =
      ((empty limit).receiveAll (additions.filter (·.isOf unit))).kept := by
  intro collection additions
  have whole : collection = (empty limit).receiveAll additions := change_all_eq limit [] changes
  have kept : collection.kept = ((empty limit).accepted additions).map (·.diagnostic) := by
    rw [whole, receive_all_kept]
    exact List.nil_append _
  refine ⟨?_, ?_, ?_, ?_⟩
  · rw [whole]
    exact receive_all_counted (empty limit) additions fun unit => rfl
  · rw [whole, receive_all_total]
    exact Nat.zero_add _
  · rw [kept]
    exact (accepted_sublist (empty limit) additions).map _
  · intro unit
    rw [kept, receive_all_kept, ← accepted_alone, List.filter_map]
    rfl

end JavaDiagnostics.Collection
