/-
# The names in a MySQL dump

Whatever shape a line has, the names that are read from it are runs of word characters: none is
empty, and none holds a dot, a quote or a line break.

Key definitions: `DumpLine.IsName`, `DumpLine.Named`.
Key theorems: `DumpLine.ofText_named`.
-/
import SchemaMap.Reader.DumpLine
import SchemaMap.Proofs.Text.Pattern

namespace SchemaMap
namespace DumpLine

open Text

/-- A name: word characters, at least one. -/
def IsName (s : String) : Prop :=
  s.toList ≠ [] ∧ ∀ c ∈ s.toList, isWord c = true

instance (s : String) : Decidable (IsName s) :=
  decidable_of_iff ((!s.toList.isEmpty && s.toList.all isWord) = true) (by simp [IsName])

theorem name?_isName {cs r : List Char} {s : String} (h : name? cs = some (s, r)) :
    IsName s := by
  unfold name? at h
  obtain ⟨⟨w, r'⟩, hw, he⟩ := Option.map_eq_some_iff.1 h
  obtain ⟨rfl, -⟩ := Prod.mk.inj he
  unfold IsName
  rw [String.toList_ofList]
  exact run?_eq_some hw

theorem useShape?_isName {cs : List Char} {schema : String} (h : useShape? cs = some schema) :
    IsName schema := by
  simp only [useShape?, Option.bind_eq_bind, Option.bind_eq_some_iff] at h
  obtain ⟨r, -, ⟨s, r'⟩, hs, r'', -, he⟩ := h
  cases he
  exact name?_isName hs

theorem qualifiedShape?_isName {cs : List Char} {schema name : String}
    (h : qualifiedShape? cs = some (schema, name)) : IsName schema ∧ IsName name := by
  simp only [qualifiedShape?, Option.bind_eq_bind, Option.bind_eq_some_iff] at h
  obtain ⟨⟨s, r⟩, hs, r', -, ⟨n, r''⟩, hn, _, -, he⟩ := h
  cases he
  exact ⟨name?_isName hs, name?_isName hn⟩

theorem plainShape?_isName {cs : List Char} {name : String}
    (h : plainShape? cs = some name) : IsName name := by
  simp only [plainShape?, Option.bind_eq_bind, Option.bind_eq_some_iff] at h
  obtain ⟨⟨n, r⟩, hn, _, -, he⟩ := h
  cases he
  exact name?_isName hn

theorem createShape?_isName {cs : List Char} {schema : Option String} {name : String}
    (h : createShape? cs = some (schema, name)) :
    (∀ s ∈ schema, IsName s) ∧ IsName name := by
  have qualified {t : List Char} {f : String × String → Option String × String}
      (hf : ∀ s n, f (s, n) = (some s, n)) (h : (qualifiedShape? t).map f = some (schema, name)) :
      (∀ s ∈ schema, IsName s) ∧ IsName name := by
    obtain ⟨⟨s, n⟩, hsn, he⟩ := Option.map_eq_some_iff.1 h
    rw [hf] at he
    cases he
    obtain ⟨hs, hn⟩ := qualifiedShape?_isName hsn
    exact ⟨by simpa using hs, hn⟩
  have plain {t : List Char}
      (h : (plainShape? t).map (fun n => ((none : Option String), n)) = some (schema, name)) :
      (∀ s ∈ schema, IsName s) ∧ IsName name := by
    obtain ⟨n, hn, he⟩ := Option.map_eq_some_iff.1 h
    cases he
    exact ⟨by simp, plainShape?_isName hn⟩
  simp only [createShape?, Option.bind_eq_bind, Option.bind_eq_some_iff] at h
  obtain ⟨⟨inner, outer⟩, -, h⟩ := h
  rcases Option.or_eq_some_iff.1 h with h | ⟨-, h⟩
  · exact qualified (fun _ _ => rfl) h
  rcases Option.or_eq_some_iff.1 h with h | ⟨-, h⟩
  · exact qualified (fun _ _ => rfl) h
  rcases Option.or_eq_some_iff.1 h with h | ⟨-, h⟩
  · exact plain h
  · exact plain h

theorem columnShape?_isName {cs : List Char} {quoted : Bool} {name : String}
    (h : columnShape? cs = some (quoted, name)) : IsName name := by
  obtain ⟨⟨n, r⟩, hn, h⟩ := Option.bind_eq_some_iff.1 h
  obtain ⟨r', -, h⟩ := Option.bind_eq_some_iff.1 h
  obtain ⟨-, -, he⟩ := Option.bind_eq_some_iff.1 h
  cases he
  exact name?_isName hn

/-- Whether every name on a line is one. -/
def Named : DumpLine → Prop
  | .use schema => IsName schema
  | .create schema name => (∀ s ∈ schema, IsName s) ∧ IsName name
  | .column name => IsName name
  | _ => True

/-- **Every name that a line gives is a run of word characters.** -/
theorem ofText_named (cs : List Char) : Named (ofText cs) := by
  unfold ofText
  split
  · rename_i hu
    exact useShape?_isName hu
  split
  · rename_i hc
    exact createShape?_isName hc
  split
  · rename_i hc
    split
    · trivial
    · exact columnShape?_isName hc
  split
  · trivial
  split
  · trivial
  · trivial

end DumpLine
end SchemaMap
