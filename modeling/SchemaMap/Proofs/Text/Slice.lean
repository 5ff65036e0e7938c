/-
# Slices of a text

A text is addressed by places, which count its characters, or by positions, which count the bytes in
front of a character. A position may lie within a character or outside of the text, and then there
is nothing to be had at it. Whatever is asked for and is not there is a fault (`Stray`), and so is a
slice that stops in front of its start. So an answer is `.ok` only where every step to it stays in
the text: `slice_eq_ok_iff` says so for slices.

Key definitions: `Stray`, `positioned`, `Text.cutAtPosition?`, `Text.slice`.
Key theorems: `positioned_append`, `getElem?_positioned`, `Text.slice_eq_ok_iff`,
`Text.slice_parts`.
-/
import Mathlib.Algebra.GroupWithZero.Nat
import Mathlib.Data.String.Basic

namespace SchemaMap

open String (utf8Len)

/-- How an answer can be missed by asking for what is not there. -/
inductive Stray where
  /-- There is no character at the place. -/
  | character (place : Nat)
  /-- One of the places is outside of the text, or the second in front of the first. -/
  | characters (start stop : Nat)
  /-- One of the positions is not between characters of the text, or the second in front of the
  first. -/
  | slice (start stop : Nat)
  /-- There is nothing left to count down. -/
  | count
deriving DecidableEq, Repr

theorem ok_bind {ε α β : Type} (a : α) (f : α → Except ε β) : (.ok a >>= f) = f a :=
  rfl

/-! ### Positions -/

section Positioned

variable {α : Type} (size : α → Nat)

/-- The items of a list, each with the sizes of those in front of it, from the position `n` on. -/
def positioned (n : Nat) : List α → List (Nat × α)
  | [] => []
  | a :: as => (n, a) :: positioned (n + size a) as

theorem positioned_append (bs : List α) : ∀ (as : List α) (n : Nat),
    positioned size n (as ++ bs) =
      positioned size n as ++ positioned size (n + (as.map size).sum) bs
  | [], _ => rfl
  | a :: as, n => by
    rw [List.cons_append, positioned, positioned_append bs as, List.map_cons, List.sum_cons,
      Nat.add_assoc]
    rfl

theorem map_snd_positioned : ∀ (as : List α) (n : Nat), (positioned size n as).map (·.2) = as
  | [], _ => rfl
  | a :: as, n => congrArg (a :: ·) (map_snd_positioned as (n + size a))

@[simp] theorem length_positioned (as : List α) (n : Nat) :
    (positioned size n as).length = as.length := by
  rw [← List.length_map (f := (·.2)), map_snd_positioned]

theorem getElem?_positioned : ∀ (as : List α) (n k : Nat),
    (positioned size n as)[k]? = as[k]?.map fun a => (n + ((as.take k).map size).sum, a)
  | [], _, _ => rfl
  | a :: as, n, 0 => rfl
  | a :: as, n, k + 1 => by
    rw [positioned, List.getElem?_cons_succ, List.getElem?_cons_succ,
      getElem?_positioned as (n + size a) k, List.take_succ_cons, List.map_cons, List.sum_cons,
      Nat.add_assoc]

/-- Items that are not empty stand in front of the position behind the list. -/
theorem lt_of_mem_positioned (hsize : ∀ a, 0 < size a) : ∀ {as : List α} {n : Nat} {x : Nat × α},
    x ∈ positioned size n as → x.1 < n + (as.map size).sum
  | a :: as, n, x, hx => by
    rw [List.map_cons, List.sum_cons]
    have ha := hsize a
    rcases List.mem_cons.1 hx with rfl | hx
    · change n < n + (size a + (as.map size).sum)
      omega
    · have htail := lt_of_mem_positioned hsize hx
      omega

end Positioned

namespace Text

theorem sum_utf8Size : ∀ cs : List Char, (cs.map Char.utf8Size).sum = utf8Len cs
  | [] => rfl
  | c :: cs => by
    rw [List.map_cons, List.sum_cons, sum_utf8Size cs, String.utf8Len_cons, Nat.add_comm]

/-! ### Slices -/

/-- What stands in front of a position and what stands behind it, unless the position lies within a
character or behind the end. -/
def cutAtPosition? : Nat → List Char → Option (List Char × List Char)
  | 0, cs => some ([], cs)
  | _ + 1, [] => none
  | n + 1, c :: cs =>
    if c.utf8Size ≤ n + 1 then
      (cutAtPosition? (n + 1 - c.utf8Size) cs).map fun (front, back) => (c :: front, back)
    else none

theorem cutAtPosition?_append (back : List Char) : ∀ front : List Char,
    cutAtPosition? (utf8Len front) (front ++ back) = some (front, back)
  | [] => by rw [String.utf8Len_nil, List.nil_append, cutAtPosition?]
  | c :: front => by
    have hpos := c.utf8Size_pos
    obtain ⟨n, hn⟩ := Nat.exists_eq_add_one_of_ne_zero
      (by omega : utf8Len front + c.utf8Size ≠ 0)
    have hrest : n + 1 - c.utf8Size = utf8Len front := by omega
    rw [String.utf8Len_cons, hn, List.cons_append, cutAtPosition?, if_pos (by omega), hrest,
      cutAtPosition?_append back front]
    rfl

theorem eq_append_of_cutAtPosition? : ∀ {n : Nat} {cs front back : List Char},
    cutAtPosition? n cs = some (front, back) → cs = front ++ back ∧ utf8Len front = n
  | 0, cs, front, back, h => by
    rw [cutAtPosition?] at h
    cases h
    exact ⟨rfl, rfl⟩
  | n + 1, [], front, back, h => nomatch h
  | n + 1, c :: cs, front, back, h => by
    rw [cutAtPosition?] at h
    split at h
    · obtain ⟨⟨f, b⟩, hcut, hfb⟩ := Option.map_eq_some_iff.1 h
      obtain ⟨rfl, rfl⟩ := Prod.mk.inj hfb
      obtain ⟨rfl, hlen⟩ := eq_append_of_cutAtPosition? hcut
      refine ⟨rfl, ?_⟩
      rw [String.utf8Len_cons]
      omega
    · cases h

/-- The text from the position `start` up to the position `stop`. -/
def slice (cs : List Char) (start stop : Nat) : Except Stray (List Char) :=
  match (cutAtPosition? stop cs).bind fun p => cutAtPosition? start p.1 with
  | some (_, part) => .ok part
  | none => .error (.slice start stop)

/-- **A slice is there just where both positions are in the text**, each between two characters or
at an end of it, and the second is not in front of the first. -/
theorem slice_eq_ok_iff {cs part : List Char} {start stop : Nat} :
    slice cs start stop = .ok part ↔ ∃ front back, cs = front ++ (part ++ back) ∧
      utf8Len front = start ∧ utf8Len (front ++ part) = stop := by
  unfold slice
  constructor
  · intro h
    split at h
    · rename_i front part' hcut
      cases h
      obtain ⟨⟨before, back⟩, hstop, hstart⟩ := Option.bind_eq_some_iff.1 hcut
      obtain ⟨rfl, hlen⟩ := eq_append_of_cutAtPosition? hstop
      obtain ⟨rfl, hlen'⟩ := eq_append_of_cutAtPosition? hstart
      exact ⟨front, back, List.append_assoc _ _ _, hlen', hlen⟩
    · cases h
  · rintro ⟨front, back, rfl, rfl, rfl⟩
    rw [← List.append_assoc, cutAtPosition?_append, Option.bind_some, cutAtPosition?_append]

/-- A part of a text is the slice between the positions of its ends. -/
theorem slice_parts (front part back : List Char) :
    slice (front ++ (part ++ back)) (utf8Len front) (utf8Len front + utf8Len part) = .ok part :=
  slice_eq_ok_iff.2 ⟨front, back, rfl, rfl, String.utf8Len_append front part⟩

example : slice "aé(".toList 1 3 = .ok ['é'] ∧ slice "aé(".toList 1 2 = .error (.slice 1 2) ∧
    slice "aé(".toList 3 1 = .error (.slice 3 1) := by decide

end Text
end SchemaMap
