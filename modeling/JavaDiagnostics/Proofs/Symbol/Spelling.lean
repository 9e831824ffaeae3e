import JavaDiagnostics.Proofs.Symbol.Parts
import JavaDiagnostics.Symbol.Readable

set_option autoImplicit false

namespace JavaDiagnostics

namespace Text

def Begins (allowed text : List Char) : Prop := ∀ c ∈ text.head?, c ∈ allowed

theorem Begins.nil (allowed : List Char) : Begins allowed [] := nofun

@[simp] theorem begins_cons (allowed : List Char) (c : Char) (rest : List Char) :
    Begins allowed (c :: rest) ↔ c ∈ allowed := by
  simp [Begins]

theorem Begins.mono {allowed more text : List Char} (begins : Begins allowed text) (within : allowed ⊆ more) :
    Begins more text :=
  fun c first => within (begins c first)

theorem Begins.refute {allowed text rest : List Char} {c : Char} (begins : Begins allowed text)
    (same : text = c :: rest) (other : c ∉ allowed) : False := by
  rw [same, begins_cons] at begins
  exact other begins

theorem cut_before (kept front other rest more : List Char) (free : ∀ c ∈ front, c ∉ kept)
    (freeOther : ∀ c ∈ other, c ∉ kept) (stops : Begins kept rest) (stopsMore : Begins kept more)
    (same : front ++ rest = other ++ more) : front = other ∧ rest = more := by
  induction front generalizing other with
  | nil =>
      cases other with
      | nil => exact ⟨rfl, same⟩
      | cons c further => exact (stops.refute same (freeOther c List.mem_cons_self)).elim
  | cons c front ih =>
      cases other with
      | nil => exact (stopsMore.refute same.symm (free c List.mem_cons_self)).elim
      | cons other further =>
          obtain ⟨rfl, tails⟩ := List.cons.inj same
          obtain ⟨rfl, rests⟩ := ih further (fun c member => free c (List.mem_cons_of_mem _ member))
            (fun c member => freeOther c (List.mem_cons_of_mem _ member)) tails
          exact ⟨rfl, rests⟩

theorem fields_cover (separator : Char) (text : List Char) :
    ∀ c ∈ text, c = separator ∨ ∃ field ∈ fields separator text, c ∈ field := by
  induction text with
  | nil => nofun
  | cons first rest ih =>
      intro c member
      rw [fields]
      split
      next separates =>
        rcases List.mem_cons.mp member with rfl | further
        · exact .inl separates
        · exact (ih c further).imp_right fun ⟨field, given, inside⟩ => ⟨field, .tail _ given, inside⟩
      next =>
        cases cut : fields separator rest with
        | nil =>
            rcases List.mem_cons.mp member with rfl | further
            · exact .inr ⟨[c], .head _, .head _⟩
            · exact (ih c further).imp_right fun ⟨field, given, _⟩ => absurd (cut ▸ given) List.not_mem_nil
        | cons field more =>
            rcases List.mem_cons.mp member with rfl | further
            · exact .inr ⟨c :: field, .head _, .head _⟩
            · rw [cut] at ih
              refine (ih c further).imp_right fun ⟨other, given, inside⟩ => ?_
              rcases List.mem_cons.mp given with rfl | later
              · exact ⟨first :: other, .head _, .tail _ inside⟩
              · exact ⟨other, .tail _ later, inside⟩

end Text

namespace JavaType

def Spelled (kept : List Char) (name : List Char) : Prop := name ≠ [] ∧ ∀ c ∈ name, c ∉ kept

def NamesSpelled (kept : List Char) (type : JavaType) : Prop :=
  type.names ≠ [] ∧ ∀ name ∈ type.names, Spelled kept name.toList

-- The characters of the name are gone through, and not all characters there are.
instance (kept name : List Char) : Decidable (Spelled kept name) :=
  @instDecidableAnd _ _ inferInstance (List.decidableBAll (· ∉ kept) name)

instance (kept : List Char) (type : JavaType) : Decidable (type.NamesSpelled kept) :=
  inferInstanceAs (Decidable (_ ∧ _))

theorem NamesSpelled.mono {kept fewer : List Char} {type : JavaType} (spelled : type.NamesSpelled kept)
    (within : fewer ⊆ kept) : type.NamesSpelled fewer :=
  ⟨spelled.1, fun name member =>
    ⟨(spelled.2 name member).1, fun c inside held => (spelled.2 name member).2 c inside (within held)⟩⟩

-- The default package has no segments.
def PackageSpelled (kept : List Char) (type : JavaType) : Prop :=
  type.package = "" ∨ ∀ segment ∈ Text.fields '.' type.package.toList, Spelled kept segment

instance (kept : List Char) (type : JavaType) : Decidable (type.PackageSpelled kept) :=
  inferInstanceAs (Decidable (_ ∨ _))

def furtherChars (style : Style) (separator : List Char) : List JavaType → List Char
  | [] => []
  | type :: rest => separator ++ (chars style type ++ furtherChars style separator rest)

theorem joined_further (style : Style) (separator : List Char) (type : JavaType) (rest : List JavaType) :
    List.intercalate separator (argumentChars style (type :: rest)) =
      chars style type ++ furtherChars style separator rest := by
  induction rest generalizing type with
  | nil => simp [argumentChars, furtherChars]
  | cons next others ih =>
      have later := ih next
      simp only [argumentChars] at later ⊢
      rw [List.intercalate_cons_cons, later, List.append_assoc]
      rfl

theorem angled_cons (style : Style) (type : JavaType) (rest : List JavaType) :
    angled (argumentChars style (type :: rest)) =
      '<' :: (chars style type ++ (furtherChars style [','] rest ++ ['>'])) := by
  rw [← List.append_assoc, ← joined_further]
  rfl

theorem angled_further (style : Style) (as bs : List JavaType) (rest more : List Char) (both : as = [] ↔ bs = [])
    (same : angled (argumentChars style as) ++ rest = angled (argumentChars style bs) ++ more) :
    furtherChars style [','] as ++ '>' :: rest = furtherChars style [','] bs ++ '>' :: more := by
  cases as with
  | nil =>
      obtain rfl := both.mp rfl
      exact congrArg ('>' :: ·) same
  | cons a others =>
      cases bs with
      | nil => cases both.mpr rfl
      | cons b further => simpa [angled_cons, furtherChars] using same

theorem name_chars_simple (names : List String) (some : names ≠ []) :
    ∃ (front : List Char) (simple : String), simple ∈ names ∧
      ∀ mark : List Char, nameChars mark names = front ++ (mark ++ simple.toList) := by
  induction names with
  | nil => exact absurd rfl some
  | cons name rest ih =>
      cases rest with
      | nil => exact ⟨[], name, .head _, fun _ => rfl⟩
      | cons next others =>
          obtain ⟨front, simple, member, split⟩ := ih (List.cons_ne_nil next others)
          refine ⟨name.toList ++ '.' :: front, simple, .tail _ member, fun mark => ?_⟩
          rw [nameChars, split]
          · simp
          · exact List.cons_ne_nil next others

theorem chars_some {kept : List Char} (style : Style) (type : JavaType) (spelled : type.NamesSpelled kept) :
    chars style type ≠ [] := by
  cases type with
  | mk kind package names arguments dimensions nullness missing =>
      obtain ⟨some, named⟩ := spelled
      obtain ⟨front, simple, member, split⟩ := name_chars_simple names some
      have written := (named simple member).1
      rw [chars, split]
      simp only [ne_eq, List.append_eq_nil_iff, written, and_false, false_and, not_false_eq_true]

end JavaType

end JavaDiagnostics
