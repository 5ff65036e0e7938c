/-
# What a store holds

A file is only written where no folder is. Then what was put stands there, and everything else,
each folder among it, is as before (`get?_put`). Stores are compared by what they hold and not by
the order in which they list it: two of them are the same, or agree at some locations.

Key definitions: `Store.AgreeOn`, `Store.Same`.
Key theorems: `Store.get?_put`, `Store.agreeOn_put`, `Store.put_comm`.
-/
import SchemaMap.Store.Basic

namespace SchemaMap
namespace Store

/-! ### What a store holds -/

theorem lookup_putItem (l k : Location) (x : Item) : ∀ items : List (Location × Item),
    (putItem l x items).lookup k = if k = l then some x else items.lookup k
  | [] => by
    by_cases hk : k = l
    · simp [putItem, hk]
    · have hb : (k == l) = false := by simpa using hk
      simp [putItem, hk, List.lookup_cons, hb]
  | (m, y) :: more => by
    have ih := lookup_putItem l k x more
    by_cases hm : m = l
    · subst hm
      by_cases hk : k = m
      · simp [putItem, hk]
      · have hb : (k == m) = false := by simpa using hk
        simp [putItem, hk, List.lookup_cons, hb]
    · by_cases hk : k = m
      · subst hk
        simp [putItem, hm]
      · have hb : (k == m) = false := by simpa using hk
        simp [putItem, hm, List.lookup_cons, hb, ih]

@[simp] theorem put_home (s : Store) (l : Location) (x : Item) : (s.put l x).home = s.home := rfl

/-- An item put where no folder is stands there afterwards, and nothing else has changed. -/
theorem get?_put {s : Store} {l : Location} (hl : s.get? l ≠ some .folder) (x : Item)
    (k : Location) : (s.put l x).get? k = if k = l then some x else s.get? k := by
  have hhome : ¬l.isPrefixOf s.home := fun h => hl (by simp [get?, h])
  by_cases hk : k = l
  · subst hk
    simp [get?, put, hhome, lookup_putItem]
  · simp [get?, put, hk, lookup_putItem]

theorem get?_put_of_ne {s : Store} {l k : Location} (hk : k ≠ l) (x : Item) :
    (s.put l x).get? k = s.get? k := by
  simp [get?, put, hk, lookup_putItem]

/-- A file put where no folder is leaves every folder in its place. -/
theorem get?_put_folder {s : Store} {l k : Location} (hl : s.get? l ≠ some .folder) (x : Item)
    (hk : s.get? k = some .folder) : (s.put l x).get? k = some .folder := by
  have hne : k ≠ l := by
    rintro rfl
    exact hl hk
  rw [get?_put_of_ne hne, hk]

/-- Two stores with the same home that hold the same at some locations. -/
structure AgreeOn (ls : List Location) (s s' : Store) : Prop where
  home : s'.home = s.home
  get? : ∀ l ∈ ls, s'.get? l = s.get? l

/-- Two stores with the same home that hold the same everywhere, in whatever order. -/
structure Same (s s' : Store) : Prop where
  home : s'.home = s.home
  get? : ∀ l, s'.get? l = s.get? l

theorem Same.refl (s : Store) : Same s s := ⟨rfl, fun _ => rfl⟩

theorem Same.trans {s s' s'' : Store} (h : Same s s') (h' : Same s' s'') : Same s s'' :=
  ⟨h'.home.trans h.home, fun l => (h'.get? l).trans (h.get? l)⟩

theorem Same.symm {s s' : Store} (h : Same s s') : Same s' s :=
  ⟨h.home.symm, fun l => (h.get? l).symm⟩

theorem Same.agreeOn {s s' : Store} (h : Same s s') (ls : List Location) : AgreeOn ls s s' :=
  ⟨h.home, fun l _ => h.get? l⟩

theorem AgreeOn.mono {ls ms : List Location} {s s' : Store} (h : AgreeOn ls s s')
    (hsub : ms ⊆ ls) : AgreeOn ms s s' :=
  ⟨h.home, fun l hl => h.get? l (hsub hl)⟩

/-- A write outside of some locations leaves them as they were. -/
theorem agreeOn_put {ls : List Location} {l : Location} (h : l ∉ ls) (s : Store) (x : Item) :
    AgreeOn ls s (s.put l x) := by
  refine ⟨rfl, fun k hk => get?_put_of_ne ?_ x⟩
  rintro rfl
  exact h hk

theorem Same.put {s s' : Store} (h : Same s s') (l : Location) (x : Item) :
    Same (s.put l x) (s'.put l x) := by
  refine ⟨h.home, fun k => ?_⟩
  by_cases hk : k = l
  · subst hk
    by_cases hhome : k.isPrefixOf s.home
    · simp [Store.get?, Store.put, h.home, hhome]
    · simp [Store.get?, Store.put, h.home, hhome, lookup_putItem]
  · rw [get?_put_of_ne hk, get?_put_of_ne hk, h.get? k]

/-- Two writes at different locations can be made in either order. -/
theorem put_comm {l m : Location} (hlm : l ≠ m) (s : Store) (x y : Item) :
    Same ((s.put l x).put m y) ((s.put m y).put l x) := by
  refine ⟨rfl, fun k => ?_⟩
  by_cases hk : k.isPrefixOf s.home
  · simp [Store.get?, Store.put, hk]
  · by_cases hl : k = l
    · subst hl
      simp [Store.get?, Store.put, hlm, lookup_putItem]
    · simp [Store.get?, Store.put, hl, lookup_putItem]

end Store
end SchemaMap
