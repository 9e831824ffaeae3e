import JavaDiagnostics.Json.Decode
import JavaDiagnostics.Json.Value
import Mathlib.Data.List.Perm.Basic

set_option autoImplicit false

namespace JavaDiagnostics.Json

theorem Value.put_perm (key : String) (value : Value) (kept : List (String × Value))
    (fresh : key ∉ kept.map Prod.fst) : (put key value kept).Perm ((key, value) :: kept) := by
  induction kept with
  | nil => exact .refl _
  | cons member rest ih =>
      obtain ⟨k, v⟩ := member
      simp only [List.map_cons, List.mem_cons, not_or] at fresh
      rw [put]
      split
      · exact .refl _
      · rw [if_neg fresh.1]
        exact ((ih fresh.2).cons (k, v)).trans (.swap (key, value) (k, v) rest)

theorem Value.put_all_perm (members kept : List (String × Value))
    (apart : ((members ++ kept).map Prod.fst).Nodup) :
    (members.foldl (fun kept (key, value) => put key value kept) kept).Perm (members ++ kept) := by
  induction members generalizing kept with
  | nil => exact .refl _
  | cons member rest ih =>
      obtain ⟨key, value⟩ := member
      have fresh : key ∉ kept.map Prod.fst := by
        rw [List.cons_append, List.map_cons, List.nodup_cons, List.map_append, List.mem_append, not_or] at apart
        exact apart.1.2
      have moved : (rest ++ put key value kept).Perm ((key, value) :: rest ++ kept) :=
        ((put_perm key value kept fresh).append_left rest).trans List.perm_middle
      exact (ih _ ((moved.map _).nodup_iff.mpr apart)).trans moved

def Value.member (entry : String × String) : String × Value := (entry.1, .text entry.2)

namespace Document

def texts? : Document → Option (List (String × String))
  | .object members => members.mapM fun (key, value) => do return (← Glyph.string? key, ← value.string?)
  | _ => none

theorem read_text (levels : Nat) (document : Document) (text : String) (read : document.string? = some text) :
    Value.ofDocument? levels document = some (.text text) := by
  cases document with
  | text glyphs =>
      have found : Glyph.string? glyphs = some text := read
      simp only [Value.ofDocument?, found, Option.map_some]
  | _ => cases read

theorem read_texts (levels : Nat) (members : List (List Glyph × Document)) (written : List (String × String))
    (texts : (Document.object members).texts? = some written) :
    (members.mapM fun (key, document) => do
        return (← Glyph.string? key, ← Value.ofDocument? levels document)) =
      some (written.map Value.member) := by
  unfold texts? at texts
  induction members generalizing written with
  | nil =>
      obtain rfl := Option.some.inj texts
      rfl
  | cons member rest ih =>
      obtain ⟨key, document⟩ := member
      simp only [List.mapM_cons, Option.bind_eq_bind, Option.bind_eq_some_iff] at texts
      obtain ⟨entry, ⟨name, named, text, read, shown⟩, others, later, whole⟩ := texts
      cases shown
      cases whole
      simp only [List.mapM_cons, named, read_text levels document text read, ih others later]
      rfl

theorem read_object (json : String) (written : List (String × String))
    (texts : (Document.read json).bind texts? = some written) (apart : (written.map Prod.fst).Nodup) :
    ∃ entries : List (String × String), entries.Perm written ∧
      Value.read json = some (.object (entries.map Value.member)) := by
  obtain ⟨document, found, listed⟩ := Option.bind_eq_some_iff.mp texts
  cases document with
  | object members =>
      have keys : (written.map Value.member ++ []).map Prod.fst = written.map Prod.fst := by
        rw [List.append_nil, List.map_map]
        rfl
      have kept := Value.put_all_perm (written.map Value.member) [] (keys ▸ apart)
      rw [List.append_nil] at kept
      obtain ⟨entries, same, order⟩ :=
        (congrFun (congrFun (List.eq_map_comp_perm Value.member) _) written).mpr kept
      refine ⟨entries, order, ?_⟩
      rw [Value.read, found, Option.bind_some, Value.maxLevels, Value.ofDocument?,
        read_texts 126 members written listed]
      exact congrArg (some ∘ Value.object) same
  | _ => cases listed

end Document

end JavaDiagnostics.Json
