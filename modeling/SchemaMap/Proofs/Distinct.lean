/-
# Each once, in the order of first occurrence

Tables that are declared again, and columns that are named again, are put where the first of them
stands. The keys of such a list are `eraseDups` of all keys; here is how they grow by one more.

Key theorems: `nodup_eraseDups`, `eraseDups_concat`, `length_eraseDups_eq_iff`.
-/
import Mathlib.Data.List.Basic

namespace SchemaMap

variable {α : Type} [BEq α] [LawfulBEq α]

theorem nodup_eraseDups : ∀ keys : List α, keys.eraseDups.Nodup
  | [] => by simp
  | k :: keys => by
    rw [List.eraseDups_cons, List.nodup_cons]
    refine ⟨fun h => ?_, nodup_eraseDups _⟩
    rw [List.mem_eraseDups, List.mem_filter] at h
    simp at h
termination_by keys => keys.length
decreasing_by
  have := List.length_filter_le (fun b => !b == k) keys
  simp only [List.length_cons]
  omega

/-- A key that is new comes last, and another one changes nothing. -/
theorem eraseDups_concat (keys : List α) (k : α) :
    (keys ++ [k]).eraseDups = if k ∈ keys then keys.eraseDups else keys.eraseDups ++ [k] := by
  rw [List.eraseDups_append]
  by_cases h : k ∈ keys
  · simp [List.removeAll, h]
  · simp [List.removeAll, h, List.eraseDups_cons]

omit [LawfulBEq α] in
theorem eraseDups_sublist : ∀ keys : List α, keys.eraseDups.Sublist keys
  | [] => by simp
  | k :: keys => by
    rw [List.eraseDups_cons]
    exact .cons_cons k ((eraseDups_sublist _).trans List.filter_sublist)
termination_by keys => keys.length
decreasing_by
  have := List.length_filter_le (fun b => !b == k) keys
  simp only [List.length_cons]
  omega

/-- Nothing is left out just where no key occurs twice. -/
theorem length_eraseDups_eq_iff {keys : List α} :
    keys.eraseDups.length = keys.length ↔ keys.Nodup := by
  constructor
  · intro h
    rw [← (eraseDups_sublist keys).eq_of_length h]
    exact nodup_eraseDups keys
  · intro h
    induction keys with
    | nil => rfl
    | cons k keys ih =>
      obtain ⟨hk, hkeys⟩ := List.nodup_cons.1 h
      have hfilter : (keys.filter fun b => !b == k) = keys := by
        rw [List.filter_eq_self]
        intro b hb
        have hne : b ≠ k := fun he => hk (he ▸ hb)
        simpa using hne
      rw [List.eraseDups_cons, hfilter, List.length_cons, List.length_cons, ih hkeys]

end SchemaMap
