/-
# How the classes of characters lie

The letters, digits and white space of ASCII lie in bounds that keep them apart. Where case is
ignored, only the two cases of an ASCII letter stand for it, unless it is `K` or `S`.

Key theorems: `Text.isBlank_of_toNat`, `Text.class_of_isBlank`, `Text.isBlank_of_isWord`,
`Text.toNat_of_isAsciiLetter`, `Text.toNat_of_isAsciiDigit`, `Text.caseFold_eq_asciiUpper`.
-/
import SchemaMap.Text.Class

namespace SchemaMap
namespace Text

/-- What a test tells of a list, element by element. -/
theorem forall_mem_of_all {α : Type} {p : α → Prop} [DecidablePred p] {xs : List α}
    (h : xs.all (fun x => decide (p x)) = true) : ∀ x ∈ xs, p x :=
  fun x hx => of_decide_eq_true (List.all_eq_true.1 h x hx)

theorem forall_mem_some {α : Type} {p : α → Prop} {x : α} (h : p x) : ∀ y ∈ some x, p y := by
  rintro y ⟨⟩
  exact h

theorem ne_of_class {p : Char → Bool} {c d : Char} (hd : p d = false) (hc : p c = true) :
    c ≠ d :=
  fun he => Bool.false_ne_true (hd.symm.trans (he ▸ hc))

/-- Between the blank and the end of ASCII there is no white space. -/
theorem isBlank_of_toNat {c : Char} (h : 32 < c.toNat) (h' : c.toNat < 128) :
    isBlank c = false := by
  simp only [isBlank, Bool.or_eq_false_iff, Bool.and_eq_false_iff, decide_eq_false_iff_not,
    beq_eq_false_iff_ne]
  omega

/-- The code points of white space. -/
def blankCodes : List Nat :=
  [9, 10, 11, 12, 13, 32, 0x85, 0xA0, 0x1680, 0x2000, 0x2001, 0x2002, 0x2003, 0x2004, 0x2005,
   0x2006, 0x2007, 0x2008, 0x2009, 0x200A, 0x2028, 0x2029, 0x202F, 0x205F, 0x3000]

theorem toNat_mem_blankCodes {c : Char} (h : isBlank c = true) : c.toNat ∈ blankCodes := by
  simp only [isBlank, Bool.or_eq_true, Bool.and_eq_true, decide_eq_true_eq, beq_iff_eq] at h
  simp only [blankCodes, List.mem_cons, List.not_mem_nil, or_false]
  omega

/-- A class without the characters of white space. -/
theorem class_of_isBlank {p : Char → Bool} (hp : ∀ n ∈ blankCodes, p (Char.ofNat n) = false)
    {c : Char} (h : isBlank c = true) : p c = false := by
  have hc := hp _ (toNat_mem_blankCodes h)
  rwa [Char.ofNat_toNat] at hc

theorem isWord_of_isBlank {c : Char} (h : isBlank c = true) : isWord c = false :=
  class_of_isBlank (by decide +kernel) h

/-- No white space is a word character. -/
theorem isBlank_of_isWord {c : Char} (h : isWord c = true) : isBlank c = false := by
  rw [Bool.eq_false_iff]
  intro hblank
  rw [isWord_of_isBlank hblank] at h
  cases h

theorem toNat_of_isAsciiLetter {c : Char} (h : isAsciiLetter c = true) :
    65 ≤ c.toNat ∧ c.toNat ≤ 122 := by
  simp only [isAsciiLetter, Bool.or_eq_true, Bool.and_eq_true, decide_eq_true_eq, Char.le_def,
    UInt32.le_iff_toNat_le] at h
  simp at h
  omega

theorem toNat_of_isAsciiDigit {c : Char} (h : isAsciiDigit c = true) :
    48 ≤ c.toNat ∧ c.toNat ≤ 57 := by
  simp only [isAsciiDigit, Bool.and_eq_true, decide_eq_true_eq, Char.le_def,
    UInt32.le_iff_toNat_le] at h
  simp at h
  omega

theorem isAsciiLetter_of_asciiUpper {c : Char} (h : isAsciiLetter (asciiUpper c) = true) :
    isAsciiLetter c = true := by
  unfold asciiUpper at h
  split at h
  · simp_all [isAsciiLetter]
  · exact h

/-- Only for `S` and `K` does a character stand that is no case of the letter. -/
theorem caseFold_eq_asciiUpper {c : Char} (hs : caseFold c ≠ 'S') (hk : caseFold c ≠ 'K') :
    caseFold c = asciiUpper c := by
  have hlong : ¬(c == '\u017f') = true := fun h => hs (if_pos h)
  have hkelvin : ¬(c == '\u212a') = true := fun h => hk ((if_neg hlong).trans (if_pos h))
  exact (if_neg hlong).trans (if_neg hkelvin)

end Text
end SchemaMap
