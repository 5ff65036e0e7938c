/-
# The first occurrence of a text in lines

A text without a line feed that occurs in a run of lines occurs within one of them. So the search
for it passes over the lines it does not occur in (`find?_unlines`), and where it occurs in one of
them, it is found inside a line, with all later lines behind it (`find?_unlines_of_occursIn`).

Where a line is put together of parts, the first and the last character of what is looked for say
which of the parts it can lie in (`infix_append_left`, `infix_append_right`).

Key definitions: `Text.OccursIn`.
Key theorems: `Text.find?_unlines`, `Text.find?_unlines_of_occursIn`, `Text.infix_append_left`,
`Text.infix_append_right`.
-/
import SchemaMap.Proofs.Text.Lines
import SchemaMap.Proofs.Text.Pattern
import Mathlib.Data.List.Infix

namespace SchemaMap
namespace Text

/-! ### At the front of a text -/

theorem after?_isSome : ∀ p cs : List Char, (after? p cs).isSome = true ↔ p <+: cs
  | [], cs => by simp [after?]
  | h :: p, [] => by simp [after?]
  | h :: p, c :: cs => by
    rw [after?, List.cons_prefix_cons]
    by_cases hc : h = c
    · rw [if_pos hc, after?_isSome p cs]
      exact (and_iff_right hc).symm
    · simp [hc]

/-- What a text starts with is found at once. -/
theorem find?_of_prefix {p : List Char} {c : Char} {cs : List Char} (h : p <+: c :: cs) :
    find? p (c :: cs) = some (c :: cs) := by
  rw [find?, if_pos ((after?_isSome _ _).2 h)]

theorem find?_of_not_prefix {p : List Char} {c : Char} {cs : List Char} (h : ¬p <+: c :: cs) :
    find? p (c :: cs) = find? p cs := by
  rw [find?, if_neg fun hs => h ((after?_isSome _ _).1 hs)]

/-- A text without a line feed is no longer than the line that starts with it. -/
theorem prefix_line : ∀ {p l rest : List Char}, '\n' ∉ p →
    (p <+: l ++ '\n' :: rest ↔ p <+: l)
  | [], _, _, _ => by simp
  | h :: p, [], rest, hp => by
    have hne : ¬h = '\n' := fun he => hp (he ▸ List.mem_cons_self)
    simp [List.cons_prefix_cons, hne]
  | h :: p, c :: l, rest, hp => by
    rw [List.cons_append, List.cons_prefix_cons, List.cons_prefix_cons,
      prefix_line fun hm => hp (List.mem_cons_of_mem h hm)]

/-! ### Line by line -/

/-- A line in which `p` does not occur is passed over. -/
theorem find?_line {p : List Char} (hp : '\n' ∉ p) (rest : List Char) :
    ∀ {l : List Char}, ¬p <:+: l → find? p (l ++ '\n' :: rest) = find? p rest
  | [], h => find?_of_not_prefix fun hpre => h ((prefix_line (l := []) hp).1 hpre).isInfix
  | c :: l, h => by
    have hl : ¬p <:+: l := fun hl => h (hl.trans (List.suffix_cons c l).isInfix)
    rw [← find?_line hp rest hl]
    exact find?_of_not_prefix fun hpre => h ((prefix_line (l := c :: l) hp).1 hpre).isInfix

/-- In a line in which `p` occurs it is found. -/
theorem find?_line_of_infix {p : List Char} (hp : '\n' ∉ p) (hne : p ≠ []) (rest : List Char) :
    ∀ {l : List Char}, p <:+: l →
      ∃ s, s <:+ l ∧ find? p (l ++ '\n' :: rest) = some (s ++ '\n' :: rest)
  | [], h => absurd (List.infix_nil.1 h) hne
  | c :: l, h => by
    have hline : p <+: c :: l ++ '\n' :: rest ↔ p <+: c :: l := prefix_line hp
    by_cases hpre : p <+: c :: l
    · exact ⟨c :: l, List.suffix_rfl, find?_of_prefix (hline.2 hpre)⟩
    · have hl : p <:+: l := (List.infix_cons_iff.1 h).resolve_left hpre
      obtain ⟨s, hs, hfound⟩ := find?_line_of_infix hp hne rest hl
      refine ⟨s, hs.trans (List.suffix_cons c l), ?_⟩
      rw [← hfound]
      exact find?_of_not_prefix fun h => hpre (hline.1 h)

/-- Whether `p` occurs in one of the lines. -/
def OccursIn (p : List Char) (ls : List (List Char)) : Prop :=
  ∃ l ∈ ls, p <:+: l

@[simp] theorem occursIn_nil (p : List Char) : ¬OccursIn p [] := by
  simp [OccursIn]

@[simp] theorem occursIn_cons (p l : List Char) (ls : List (List Char)) :
    OccursIn p (l :: ls) ↔ p <:+: l ∨ OccursIn p ls := by
  simp [OccursIn]

@[simp] theorem occursIn_append (p : List Char) (ls ms : List (List Char)) :
    OccursIn p (ls ++ ms) ↔ OccursIn p ls ∨ OccursIn p ms := by
  simp [OccursIn, or_and_right, exists_or]

theorem occursIn_flatMap {α : Type} (p : List Char) (f : α → List (List Char)) (xs : List α) :
    OccursIn p (xs.flatMap f) ↔ ∃ x ∈ xs, OccursIn p (f x) := by
  unfold OccursIn
  constructor
  · rintro ⟨l, hl, hp⟩
    obtain ⟨x, hx, hl⟩ := List.mem_flatMap.1 hl
    exact ⟨x, hx, l, hl, hp⟩
  · rintro ⟨x, hx, l, hl, hp⟩
    exact ⟨l, List.mem_flatMap.2 ⟨x, hx, hl⟩, hp⟩

/-- Lines in which `p` does not occur are passed over. -/
theorem find?_unlines {p : List Char} (hp : '\n' ∉ p) (rest : List Char) :
    ∀ {ls : List (List Char)}, ¬OccursIn p ls → find? p (unlines ls ++ rest) = find? p rest
  | [], _ => rfl
  | l :: ls, h => by
    rw [occursIn_cons, not_or] at h
    rw [unlines_cons, List.append_assoc, List.cons_append, find?_line hp _ h.1]
    exact find?_unlines hp rest h.2

/-- If `p` occurs in one of the lines, it is found inside a line, and the later lines follow. -/
theorem find?_unlines_of_occursIn {p : List Char} (hp : '\n' ∉ p) (hne : p ≠ [])
    (rest : List Char) : ∀ {ls : List (List Char)}, OccursIn p ls →
      ∃ before l later s, ls = before ++ l :: later ∧ p <:+: l ∧ s <:+ l ∧
        find? p (unlines ls ++ rest) = some (s ++ '\n' :: (unlines later ++ rest))
  | [], h => absurd h (occursIn_nil p)
  | l :: ls, h => by
    rw [unlines_cons, List.append_assoc, List.cons_append]
    by_cases hl : p <:+: l
    · obtain ⟨s, hs, hfound⟩ := find?_line_of_infix hp hne (unlines ls ++ rest) hl
      exact ⟨[], l, ls, s, rfl, hl, hs, hfound⟩
    · have hls : OccursIn p ls := ((occursIn_cons p l ls).1 h).resolve_left hl
      obtain ⟨before, m, later, s, rfl, hm, hs, hfound⟩ :=
        find?_unlines_of_occursIn hp hne rest hls
      refine ⟨l :: before, m, later, s, rfl, hm, hs, ?_⟩
      rw [find?_line hp _ hl, hfound]

/-! ### The parts of a line -/

/-- What does not start in the front part lies behind it. -/
theorem infix_append_right {c : Char} {p : List Char} (hp : p.head? = some c) (b : List Char) :
    ∀ {a : List Char}, c ∉ a → (p <:+: a ++ b ↔ p <:+: b)
  | [], _ => Iff.rfl
  | d :: a, ha => by
    rw [List.mem_cons, not_or] at ha
    have hpre : ¬p <+: d :: (a ++ b) := by
      obtain ⟨p', rfl⟩ := List.head?_eq_some_iff.1 hp
      exact fun h => ha.1 (List.cons_prefix_cons.1 h).1
    rw [List.cons_append, List.infix_cons_iff, infix_append_right hp b ha.2]
    exact or_iff_right hpre

/-- What does not end in the rear part lies in front of it. -/
theorem infix_append_left {c : Char} {p : List Char} (hp : p.getLast? = some c) (a : List Char)
    {b : List Char} (hb : c ∉ b) : p <:+: a ++ b ↔ p <:+: a := by
  rw [← List.reverse_infix, List.reverse_append, infix_append_right (c := c), List.reverse_infix]
  · rwa [List.head?_reverse]
  · rwa [List.mem_reverse]

end Text
end SchemaMap
