import JavaDiagnostics.Irritant

set_option autoImplicit false

namespace JavaDiagnostics

namespace Irritant

theorem mem_all (irritant : Irritant) : irritant ∈ all := by
  cases irritant <;> decide

theorem silenced_by_iff (irritant : Irritant) (token : String) :
    irritant.silencedBy token = true ↔
      irritant.token = some token ∨ token = "all" ∧ irritant.token.isSome = true := by
  unfold silencedBy allToken
  cases irritant.token with
  | none => simp
  | some own =>
      simp only [Bool.or_eq_true, beq_iff_eq, Option.some.injEq, Option.isSome_some, and_true]
      exact Or.comm

theorem silenced_token (irritant : Irritant) (token : String)
    (silenced : irritant.silencedBy token = true) : isToken token = true := by
  unfold isToken allToken
  rcases (silenced_by_iff irritant token).mp silenced with own | ⟨rfl, _⟩
  · have found : all.any (fun other => other.token == some token) = true :=
      List.any_eq_true.mpr ⟨irritant, mem_all irritant, beq_iff_eq.mpr own⟩
    rw [found, Bool.or_true]
  · rfl

theorem tokens_trimmed :
    all.all (fun irritant => irritant.token.all fun token => Text.trim token == token) = true := by
  decide +kernel

-- Without this a token with white space around it could be understood and silence something else.
theorem token_trimmed (token : String) (known : isToken token = true) : Text.trim token = token := by
  rcases Bool.or_eq_true_iff.mp known with every | one
  · rw [beq_iff_eq.mp every]
    decide +kernel
  · obtain ⟨irritant, member, own⟩ := List.any_eq_true.mp one
    have trimmed := List.all_eq_true.mp tokens_trimmed irritant member
    rw [beq_iff_eq.mp own] at trimmed
    exact beq_iff_eq.mp trimmed

theorem token_silences (token : String) (known : isToken token = true) :
    ∃ irritant : Irritant, irritant.silencedBy token = true := by
  rcases Bool.or_eq_true_iff.mp known with every | one
  · exact ⟨.deadCode, (silenced_by_iff .deadCode token).mpr (.inr ⟨beq_iff_eq.mp every, rfl⟩)⟩
  · obtain ⟨irritant, _, own⟩ := List.any_eq_true.mp one
    exact ⟨irritant, (silenced_by_iff irritant token).mpr (.inl (beq_iff_eq.mp own))⟩

theorem listed_iff (token : String) : ofToken token ≠ [] ↔ isToken (Text.trim token) = true := by
  refine ⟨fun listed => ?_, fun known => ?_⟩
  · obtain ⟨irritant, member⟩ := List.exists_mem_of_ne_nil _ listed
    exact silenced_token irritant _ (List.mem_filter.mp member).2
  · obtain ⟨irritant, silenced⟩ := token_silences _ known
    exact List.ne_nil_of_mem (List.mem_filter.mpr ⟨mem_all irritant, silenced⟩)

theorem known_iff (token : String) :
    isToken token = true ↔ Text.trim token = token ∧ ofToken token ≠ [] := by
  rw [listed_iff]
  refine ⟨fun known => ?_, fun ⟨trimmed, known⟩ => ?_⟩
  · have trimmed := token_trimmed token known
    exact ⟨trimmed, by rwa [trimmed]⟩
  · rwa [trimmed] at known

theorem mem_of_token (irritant : Irritant) (token : String) (known : isToken token = true) :
    irritant ∈ ofToken token ↔ irritant.silencedBy token = true := by
  rw [ofToken, List.mem_filter, token_trimmed token known]
  exact ⟨And.right, And.intro (mem_all irritant)⟩

end Irritant

end JavaDiagnostics
