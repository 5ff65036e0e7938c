/-
# What is told of each place of a list

The items of a list are often told of by their place: a table belongs to the schema that was
chosen before it, and its columns are those that follow. `placewise f` lists what `f` tells of
each place, from the items before it and the items from it on; no state is carried along. Behind
other items the same is `placewiseFrom`, which goes on item by item.

Where a list is cut into parts, each of them has a place where it starts and one where it stops.
`Covers` says that they lie in order and leave out only places that need not be in one.

Key definitions: `placewise`, `placewiseFrom`, `Covers`.
Key theorems: `placewiseFrom_cons`, `placewiseFrom_eq_filterMap`, `mem_placewise`,
`Covers.unique`.
-/
import Mathlib.Data.List.Infix
import Mathlib.Data.List.Pairwise
import Mathlib.Data.List.ReduceOption
import Mathlib.Data.List.Zip

namespace SchemaMap

variable {α β : Type}

/-- What `f` tells of each place of a list, in order. -/
def placewise (f : List α → List α → Option β) (xs : List α) : List β :=
  (List.zipWith f xs.inits xs.tails).reduceOption

/-- What `f` tells of each place of the items `xs` behind the items `before`. -/
def placewiseFrom (f : List α → List α → Option β) (before xs : List α) : List β :=
  placewise (fun past => f (before ++ past)) xs

theorem placewiseFrom_nil_left (f : List α → List α → Option β) (xs : List α) :
    placewiseFrom f [] xs = placewise f xs := rfl

theorem placewiseFrom_nil (f : List α → List α → Option β) (before : List α) :
    placewiseFrom f before [] = (f before []).toList := by
  unfold placewiseFrom placewise
  rw [List.inits, List.tails, List.zipWith_cons_cons, List.zipWith_nil_left,
    List.reduceOption_singleton, List.append_nil]

theorem placewiseFrom_cons (f : List α → List α → Option β) (before : List α) (x : α)
    (xs : List α) :
    placewiseFrom f before (x :: xs) =
      (f before (x :: xs)).toList ++ placewiseFrom f (before ++ [x]) xs := by
  unfold placewiseFrom placewise
  rw [List.inits_cons, List.tails_cons, List.zipWith_cons_cons, List.zipWith_map_left,
    List.append_nil]
  simp only [List.append_assoc, List.cons_append, List.nil_append]
  cases f before (x :: xs) with
  | none => rw [List.reduceOption_cons_of_none]; rfl
  | some y => rw [List.reduceOption_cons_of_some]; rfl

/-- The places of a list by their numbers; behind the last item there is one more. -/
theorem placewiseFrom_eq_filterMap (f : List α → List α → Option β) :
    ∀ xs before : List α, placewiseFrom f before xs =
      (List.range (xs.length + 1)).filterMap fun i => f (before ++ xs.take i) (xs.drop i)
  | [], before => by
    rw [placewiseFrom_nil]
    cases h : f before [] <;> simp [h]
  | x :: xs, before => by
    have hrange : List.range (xs.length + 1 + 1) =
        0 :: (List.range (xs.length + 1)).map Nat.succ := List.range_succ_eq_map
    rw [placewiseFrom_cons, placewiseFrom_eq_filterMap f xs, List.length_cons, hrange,
      List.filterMap_cons, List.filterMap_map]
    cases h : f before (x :: xs) <;> simp [h, Function.comp_def]

theorem mem_placewise {f : List α → List α → Option β} {xs : List α} {y : β} :
    y ∈ placewise f xs ↔ ∃ before rest, before ++ rest = xs ∧ f before rest = some y := by
  unfold placewise
  rw [List.reduceOption_mem_iff, ← List.map_uncurry_zip_eq_zipWith, List.mem_map]
  constructor
  · rintro ⟨⟨before, rest⟩, hm, hf⟩
    exact ⟨before, rest, List.mem_zip_inits_tails.1 hm, hf⟩
  · rintro ⟨before, rest, hm, hf⟩
    exact ⟨(before, rest), List.mem_zip_inits_tails.2 hm, hf⟩

/-! ### Parts that cover places -/

/-- The parts `ps` lie one behind the other from the place `k` on, and every place that must be in one
of them is. -/
structure Covers (start stop : β → Nat) (needed : Nat → Prop) (k : Nat) (ps : List β) : Prop where
  behind : ∀ p ∈ ps, k ≤ start p
  ordered : ps.Pairwise fun p q => stop p ≤ start q
  holds : ∀ i, k ≤ i → needed i → ∃ p ∈ ps, start p ≤ i ∧ i < stop p

namespace Covers

variable {start stop : β → Nat} {needed : Nat → Prop} {k : Nat} {ps : List β}

theorem nil (h : ∀ i, k ≤ i → ¬needed i) : Covers start stop needed k [] where
  behind := List.forall_mem_nil _
  ordered := .nil
  holds i hi hn := absurd hn (h i hi)

/-- A place that need not be in a part is passed over. -/
theorem skip (hk : ¬needed k) (h : Covers start stop needed (k + 1) ps) :
    Covers start stop needed k ps where
  behind p hp := Nat.le_of_succ_le (h.behind p hp)
  ordered := h.ordered
  holds i hi hn := by
    rcases Nat.eq_or_lt_of_le hi with rfl | hlt
    · exact absurd hn hk
    · exact h.holds i hlt hn

theorem cons {p : β} (hp : start p < stop p) (h : Covers start stop needed (stop p) ps) :
    Covers start stop needed (start p) (p :: ps) where
  behind := List.forall_mem_cons.2
    ⟨Nat.le_refl _, fun q hq => Nat.le_trans (Nat.le_of_lt hp) (h.behind q hq)⟩
  ordered := .cons h.behind h.ordered
  holds i hi hn := by
    rcases Nat.lt_or_ge i (stop p) with hlt | hge
    · exact ⟨p, List.mem_cons_self, hi, hlt⟩
    · obtain ⟨q, hq, hholds⟩ := h.holds i hge hn
      exact ⟨q, List.mem_cons_of_mem p hq, hholds⟩

/-- A place belongs to one part at most. -/
theorem unique (h : Covers start stop needed k ps) {p q : β} (hp : p ∈ ps) (hq : q ∈ ps) {i : Nat}
    (hpi : start p ≤ i ∧ i < stop p) (hqi : start q ≤ i ∧ i < stop q) : p = q := by
  have : Std.Symm fun p q : β => stop p ≤ start q ∨ stop q ≤ start p := ⟨fun _ _ => Or.symm⟩
  have hpairs : ps.Pairwise fun p q => stop p ≤ start q ∨ stop q ≤ start p := h.ordered.imp Or.inl
  by_contra hne
  have hapart := hpairs.forall hp hq hne
  omega

end Covers

end SchemaMap
