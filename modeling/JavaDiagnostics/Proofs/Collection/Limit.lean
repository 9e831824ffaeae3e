import JavaDiagnostics.Collection

set_option autoImplicit false

namespace JavaDiagnostics

structure Addition where
  diagnostic : Diagnostic
  mandatory : Bool

namespace Addition

def unit (addition : Addition) : String := Collection.unitOf addition.diagnostic

def isOf (unit : String) (addition : Addition) : Bool := addition.unit = unit

def isOptional (addition : Addition) : Bool := !addition.mandatory

end Addition

namespace Collection

def receive (collection : Collection) (addition : Addition) : Collection :=
  collection.add addition.diagnostic addition.mandatory

def receiveAll (collection : Collection) (additions : List Addition) : Collection :=
  additions.foldl receive collection

def accepts (collection : Collection) (addition : Addition) : Bool :=
  collection.kept.length < (collection.receive addition).kept.length

def accepted (collection : Collection) : List Addition → List Addition
  | [] => []
  | addition :: rest =>
      if collection.accepts addition then addition :: (collection.receive addition).accepted rest
      else (collection.receive addition).accepted rest

theorem count_raise (unit other : String) (counts : List (String × Nat)) :
    countIn other (raise unit counts) = countIn other counts + if unit = other then 1 else 0 := by
  induction counts with
  | nil => by_cases same : unit = other <;> simp [raise, countIn, same]
  | cons entry rest ih =>
      obtain ⟨name, count⟩ := entry
      by_cases here : name = unit
      · subst name
        by_cases same : unit = other <;> simp [raise, countIn, same]
      · rw [raise, if_neg here, countIn, countIn, ih]
        by_cases found : name = other
        · have apart : unit ≠ other := fun same => here (found.trans same.symm)
          simp [found, apart]
        · simp [found]

theorem accepts_eq (collection : Collection) (addition : Addition) :
    collection.accepts addition =
      (addition.mandatory || decide (collection.count addition.unit < collection.limit)) := by
  unfold accepts receive add Addition.unit
  cases addition.mandatory with
  | true => simp
  | false =>
      by_cases room : collection.limit ≤ collection.count (unitOf addition.diagnostic)
      · simp [room]
      · simp [room, Nat.lt_of_not_le room]

theorem receive_eq (collection : Collection) (addition : Addition) :
    collection.receive addition =
      if collection.accepts addition then
        { collection with
            kept := collection.kept ++ [addition.diagnostic]
            counts := raise addition.unit collection.counts }
      else { collection with dropped := collection.dropped + 1 } := by
  rw [accepts_eq]
  unfold receive add Addition.unit
  cases addition.mandatory with
  | true => rfl
  | false =>
      by_cases room : collection.limit ≤ collection.count (unitOf addition.diagnostic)
      · simp [room]
      · simp [room, Nat.lt_of_not_le room]

theorem receive_limit (collection : Collection) (addition : Addition) :
    (collection.receive addition).limit = collection.limit := by
  rw [receive_eq]
  split <;> rfl

theorem receive_count (collection : Collection) (addition : Addition) (unit : String) :
    (collection.receive addition).count unit =
      collection.count unit + if collection.accepts addition && addition.isOf unit then 1 else 0 := by
  rw [receive_eq]
  cases collection.accepts addition with
  | false => rfl
  | true => simpa [count, Addition.isOf] using count_raise addition.unit unit collection.counts

theorem receive_member (collection : Collection) (addition : Addition) (member : Diagnostic)
    (kept : member ∈ (collection.receive addition).kept) :
    member ∈ collection.kept ∨ member = addition.diagnostic := by
  rw [receive_eq] at kept
  split at kept
  · simpa using kept
  · exact .inl kept

theorem receive_all_kept (collection : Collection) (additions : List Addition) :
    (collection.receiveAll additions).kept =
      collection.kept ++ (collection.accepted additions).map (·.diagnostic) := by
  induction additions generalizing collection with
  | nil => simp [receiveAll, accepted]
  | cons addition rest ih =>
      have later := ih (collection.receive addition)
      change ((collection.receive addition).receiveAll rest).kept = _
      rw [later, accepted, receive_eq]
      cases collection.accepts addition with
      | true => simp
      | false => simp

def within (room : Nat) (additions : List Addition) : List Addition :=
  additions.take room ++ (additions.drop room).filter (·.mandatory)

theorem within_full (additions : List Addition) : within 0 additions = additions.filter (·.mandatory) := rfl

theorem within_spare (room : Nat) (addition : Addition) (rest : List Addition) :
    within (room + 1) (addition :: rest) = addition :: within room rest := rfl

theorem accepted_of_unit (collection : Collection) (additions : List Addition) (unit : String) :
    (collection.accepted additions).filter (·.isOf unit) =
      within (collection.limit - collection.count unit) (additions.filter (·.isOf unit)) := by
  induction additions generalizing collection with
  | nil => simp [accepted, within]
  | cons addition rest ih =>
      have later := ih (collection.receive addition)
      simp only [receive_limit, receive_count] at later
      by_cases own : addition.isOf unit = true
      · have named : addition.unit = unit := by simpa [Addition.isOf] using own
        have guard := accepts_eq collection addition
        rw [named] at guard
        rw [accepted, List.filter_cons_of_pos own]
        cases room : collection.limit - collection.count unit with
        | zero =>
            -- Without room nothing but the flag decides, and there is no room later.
            have bound : ¬ collection.count unit < collection.limit := by omega
            have none_later : ∀ more, collection.limit - (collection.count unit + more) = 0 := by omega
            simp only [none_later, within_full] at later ⊢
            rw [guard]
            cases mandatory : addition.mandatory with
            | true => simp [own, mandatory, later]
            | false => simp [bound, mandatory, later]
        | succ left =>
            have bound : collection.count unit < collection.limit := by omega
            have accepts : collection.accepts addition = true := by simp [guard, bound]
            have less : collection.limit - (collection.count unit + 1) = left := by omega
            simp only [accepts, own, Bool.and_self, if_true, less] at later
            rw [if_pos accepts, List.filter_cons_of_pos own, later, within_spare]
      · simp only [own, Bool.and_false, Bool.false_eq_true, if_false, Nat.add_zero] at later
        rw [accepted, List.filter_cons_of_neg own]
        split
        · rw [List.filter_cons_of_neg own, later]
        · exact later

theorem filter_take_full {α : Type} (property : α → Bool) (limit : Nat) (members : List α) :
    ((members.take limit).filter property).length = min limit (members.filter property).length ↔
      (∀ member ∈ members.take limit, property member = true) ∨
        ∀ member ∈ members.drop limit, ¬ property member = true := by
  have parts : (members.filter property).length =
      ((members.take limit).filter property).length + ((members.drop limit).filter property).length := by
    rw [← List.length_append, ← List.filter_append, List.take_append_drop]
  have front := List.length_filter_le property (members.take limit)
  have width := List.length_take (i := limit) (l := members)
  rw [← List.length_filter_eq_length_iff, ← List.filter_eq_nil_iff, ← List.length_eq_zero_iff, parts]
  by_cases short : members.length ≤ limit
  · have nothing : members.drop limit = [] := List.drop_eq_nil_of_le short
    simp only [nothing, List.filter_nil, List.length_nil, or_true, iff_true]
    omega
  · omega

theorem optional_kept_among_first (limit : Nat) (additions : List Addition) (unit : String) :
    let accepted := (empty limit).accepted additions
    let own := additions.filter (·.isOf unit)
    let kept := (accepted.filter (·.isOf unit)).filter (·.isOptional)
    let added := own.filter (·.isOptional)
    ((empty limit).receiveAll additions).kept = accepted.map (·.diagnostic) ∧
    kept = (own.take limit).filter (·.isOptional) ∧ kept <+: added ∧
    kept.length ≤ min limit added.length ∧
    (kept.length = min limit added.length ↔
      (∀ addition ∈ own.take limit, addition.isOptional = true) ∨
        ∀ addition ∈ own.drop limit, ¬ addition.isOptional = true) := by
  intro accepted own kept added
  have first : kept = (own.take limit).filter (·.isOptional) := by
    have whole : accepted.filter (·.isOf unit) = within limit own := accepted_of_unit (empty limit) additions unit
    have none_after : ((own.drop limit).filter (·.mandatory)).filter (·.isOptional) = [] := by
      simp [Addition.isOptional]
    change (accepted.filter (·.isOf unit)).filter (·.isOptional) = _
    rw [whole, within, List.filter_append, none_after, List.append_nil]
  have begins : kept <+: added := by
    rw [first]
    exact (List.take_prefix limit own).filter _
  have bound : kept.length ≤ limit := by
    rw [first]
    exact Nat.le_trans (List.length_filter_le _ _) (List.length_take_le limit own)
  refine ⟨?_, first, begins, Nat.le_min.mpr ⟨bound, begins.length_le⟩, ?_⟩
  · exact (receive_all_kept (empty limit) additions).trans (List.nil_append _)
  · rw [first]
    exact filter_take_full (·.isOptional) limit own

-- That the limit is one on optional diagnostics alone does not hold of one that comes after a mandatory one.
theorem mandatory_takes_room :
    let problem (mandatory : Bool) : Addition :=
      ⟨⟨.unusedImport, .warning, .unnecessaryCode, [], [], "", ⟨1, 1⟩, ⟨1, 2⟩, some "A.java", mandatory⟩,
        mandatory⟩
    let additions := [problem true, problem false]
    let optional (of : List Addition) := (of.filter (·.isOf "A.java")).filter (·.isOptional)
    (optional ((empty 1).accepted additions)).length = 0 ∧ min 1 (optional additions).length = 1 := by
  decide

end Collection

end JavaDiagnostics
