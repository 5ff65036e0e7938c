/-
# Which files can be rendered

Before a file is written, its package and the names of its mappings are checked; nothing else of it
can fail. A name is refused for one of four things: it is empty, it holds a null character or a line
break, or it is too long. Only a missing schema is let through.

Key definitions: `Name.IsUnbroken`.
Key theorems: `Name.check_eq_ok_iff`, `Artifact.exists_render_iff`.
-/
import SchemaMap.Artifact.Render
import Mathlib.Tactic.SplitIfs

namespace SchemaMap

/-- Two checks succeed just where each of them does. -/
theorem bind_eq_ok_iff {ε : Type} {x y : Except ε Unit} :
    (x >>= fun _ => y) = .ok () ↔ x = .ok () ∧ y = .ok () := by
  cases x <;> simp [bind, Except.bind]

/-- A check of every item succeeds just where it succeeds for each. -/
theorem forM_eq_ok_iff {ε α : Type} {f : α → Except ε Unit} : ∀ {xs : List α},
    xs.forM f = .ok () ↔ ∀ x ∈ xs, f x = .ok ()
  | [] => iff_of_true rfl (List.forall_mem_nil _)
  | x :: xs => by
    show (f x >>= fun _ => xs.forM f) = .ok () ↔ _
    rw [bind_eq_ok_iff, forM_eq_ok_iff, List.forall_mem_cons]

namespace Name

/-- A text without null characters and line breaks. -/
def IsUnbroken (name : String) : Prop :=
  '\x00' ∉ name.toList ∧ '\n' ∉ name.toList ∧ '\r' ∉ name.toList

instance (name : String) : Decidable (IsUnbroken name) :=
  inferInstanceAs (Decidable (_ ∧ _ ∧ _))

theorem check_eq_ok_iff {name : String} :
    check name = .ok () ↔ name ≠ "" ∧ IsUnbroken name ∧ name.length ≤ maxLength := by
  have hempty : name.toList.isEmpty = true ↔ name = "" := by
    rw [List.isEmpty_iff, String.toList_eq_nil_iff]
  unfold check IsUnbroken
  rw [← String.length_toList]
  simp only [hempty, Bool.or_eq_true, List.contains_iff_mem]
  split_ifs with h1 h2 h3 h4
  · exact iff_of_false nofun fun h => h.1 h1
  · exact iff_of_false nofun fun h => h.2.1.1 h2
  · exact iff_of_false nofun fun h => h3.elim h.2.1.2.1 h.2.1.2.2
  · exact iff_of_false nofun fun h => absurd h.2.2 (Nat.not_le_of_lt h4)
  · rw [not_or] at h3
    exact iff_of_true rfl ⟨h1, ⟨h2, h3⟩, Nat.le_of_not_lt h4⟩

-- characters are counted, not bytes
example : check (String.ofList (List.replicate 128 'é')) = .ok () :=
  check_eq_ok_iff.2 (by decide +kernel)

end Name

namespace Artifact

theorem checkMapping_eq_ok_iff {m : JobMapping} :
    checkMapping m = .ok () ↔
      (m.schema ≠ "" → Name.check m.schema = .ok ()) ∧
        Name.check m.table = .ok () ∧ Name.check m.column = .ok () := by
  unfold checkMapping
  by_cases h : m.schema = ""
  · simp [h, bind_eq_ok_iff]
  · simp [h, bind_eq_ok_iff]

/-- **A file is rendered** just where its package has a package name and the names of every mapping
can be written. -/
theorem exists_render_iff {a : Artifact} :
    (∃ text, a.render = .ok text) ↔
      checkPackage a.package = .ok () ∧ ∀ m ∈ a.mappings, checkMapping m = .ok () := by
  have hcheck : a.check = .ok () ↔
      checkPackage a.package = .ok () ∧ ∀ m ∈ a.mappings, checkMapping m = .ok () := by
    rw [← forM_eq_ok_iff]
    exact bind_eq_ok_iff
  rw [← hcheck]
  unfold render
  cases a.check with
  | error e => simp
  | ok u => simp

end Artifact
end SchemaMap
