import JavaDiagnostics.Proofs.Irritant
import JavaDiagnostics.Unit

set_option autoImplicit false

namespace JavaDiagnostics

namespace Suppression

theorem mem_gathered (irritant : Irritant) (tokens : List String) (kept : List Irritant) :
    irritant ∈ tokens.foldl (fun kept token => kept ++ (Irritant.ofToken token).filter (!kept.contains ·)) kept ↔
      irritant ∈ kept ∨ ∃ token ∈ tokens, irritant ∈ Irritant.ofToken token := by
  induction tokens generalizing kept with
  | nil => simp
  | cons token rest ih =>
      rw [List.foldl_cons, ih]
      -- An irritant that the filter leaves out is kept already.
      by_cases held : irritant ∈ kept
      · simp [held]
      · simp [held]

theorem mem_silenced (irritant : Irritant) (tokens : List String) :
    irritant ∈ silenced tokens ↔ ∃ token ∈ tokens, irritant.silencedBy token = true := by
  rw [silenced, mem_gathered]
  constructor
  · rintro (absent | ⟨token, member, listed⟩)
    · cases absent
    · obtain ⟨given, known⟩ := List.mem_filter.mp member
      exact ⟨token, given, (Irritant.mem_of_token irritant token known).mp listed⟩
  · rintro ⟨token, given, silences⟩
    have known := Irritant.silenced_token irritant token silences
    exact .inr ⟨token, List.mem_filter.mpr ⟨given, known⟩,
      (Irritant.mem_of_token irritant token known).mpr silences⟩

theorem gathered_distinct (tokens : List String) (kept : List Irritant) (distinct : kept.Nodup) :
    (tokens.foldl (fun kept token => kept ++ (Irritant.ofToken token).filter (!kept.contains ·)) kept).Nodup := by
  induction tokens generalizing kept with
  | nil => exact distinct
  | cons token rest ih =>
      have all : Irritant.all.Nodup := by decide
      refine ih _ (List.nodup_append.mpr ⟨distinct, (all.filter _).filter _, ?_⟩)
      rintro irritant held _ added rfl
      simp [held] at added

theorem tokens_silence_as_listed (region : Span) (tokens : List String) :
    (∀ token, Irritant.isToken token = true ↔ Text.trim token = token ∧ Irritant.ofToken token ≠ []) ∧
      (ofTokens region tokens).irritants.Nodup ∧
      ∀ irritant, irritant ∈ (ofTokens region tokens).irritants ↔
        ∃ token ∈ tokens, Text.trim token = token ∧ irritant ∈ Irritant.ofToken token := by
  refine ⟨Irritant.known_iff, gathered_distinct _ [] List.nodup_nil, fun irritant => ?_⟩
  rw [ofTokens, silenced, mem_gathered]
  simp only [List.not_mem_nil, false_or, List.mem_filter, Irritant.known_iff]
  exact ⟨fun ⟨token, ⟨given, trimmed, _⟩, listed⟩ => ⟨token, given, trimmed, listed⟩,
    fun ⟨token, given, trimmed, listed⟩ => ⟨token, ⟨given, trimmed, List.ne_nil_of_mem listed⟩, listed⟩⟩

-- That a token is understood if it silences something does not hold of one with white space around it.
theorem spaced_token_dropped :
    Irritant.ofToken " unused" ≠ [] ∧ Irritant.isToken " unused" = false ∧
      (ofTokens ⟨0, 20⟩ [" unused"]).irritants = [] := by
  decide +kernel

end Suppression

abbrev Regions := List (Span × List String)

def Regions.Carries (regions : Regions) (region : Span) (token : String) : Prop :=
  ∃ tokens, (region, tokens) ∈ regions ∧ token ∈ tokens

namespace SourceUnit

def suppressAll (unit : SourceUnit) (regions : Regions) : SourceUnit :=
  regions.foldl (fun unit (region, tokens) => unit.suppress region tokens) unit

theorem suppress_all_eq (unit : SourceUnit) (regions : Regions) :
    unit.suppressAll regions =
      { unit with
          suppressions := unit.suppressions ++ regions.map fun (region, tokens) => .ofTokens region tokens } := by
  induction regions generalizing unit with
  | nil => simp [suppressAll]
  | cons entry rest ih =>
      change (unit.suppress entry.1 entry.2).suppressAll rest = _
      rw [ih]
      simp [suppress]

theorem suppressed_iff (file : String) (address : Nat) (source : String) (regions : Regions)
    (irritant : Irritant) (span : Span) :
    ((ofText file address source).suppressAll regions).isSuppressed irritant span = true ↔
      ∃ region token, regions.Carries region token ∧ region.encloses span = true ∧
        irritant.silencedBy token = true := by
  rw [suppress_all_eq]
  simp only [isSuppressed, ofText, List.nil_append, List.any_eq_true, List.mem_map, Suppression.covers,
    Bool.and_eq_true, List.contains_iff_mem]
  constructor
  · rintro ⟨_, ⟨⟨region, tokens⟩, added, rfl⟩, encloses, silenced⟩
    obtain ⟨token, given, silences⟩ := (Suppression.mem_silenced irritant tokens).mp silenced
    exact ⟨region, token, ⟨tokens, added, given⟩, encloses, silences⟩
  · rintro ⟨region, token, ⟨tokens, added, given⟩, encloses, silences⟩
    exact ⟨.ofTokens region tokens, ⟨(region, tokens), added, rfl⟩, encloses,
      (Suppression.mem_silenced irritant tokens).mpr ⟨token, given, silences⟩⟩

theorem suppressed_carried (file : String) (address : Nat) (source : String) (first second : Regions)
    (irritant : Irritant) (span : Span)
    (carried : ∀ region token, Irritant.isToken token = true →
      (first.Carries region token ↔ second.Carries region token)) :
    ((ofText file address source).suppressAll first).isSuppressed irritant span =
      ((ofText file address source).suppressAll second).isSuppressed irritant span := by
  rw [Bool.eq_iff_iff, suppressed_iff, suppressed_iff]
  constructor
  · rintro ⟨region, token, carries, encloses, silences⟩
    have known := Irritant.silenced_token irritant token silences
    exact ⟨region, token, (carried region token known).mp carries, encloses, silences⟩
  · rintro ⟨region, token, carries, encloses, silences⟩
    have known := Irritant.silenced_token irritant token silences
    exact ⟨region, token, (carried region token known).mpr carries, encloses, silences⟩

end SourceUnit

end JavaDiagnostics
