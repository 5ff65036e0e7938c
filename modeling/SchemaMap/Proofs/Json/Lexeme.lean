/-
# The parts of a written value

The characters of a text, the digits of a number and the words that `Value.compact` writes are
read up to their own end. A reader keeps its place in the text beside what is left of it; only
what is left decides what is read, so each statement is about a cursor with a given rest.

A character is written in one of three ways (`escapedChar_cases`): behind a backslash as one
letter, behind a backslash as four hexadecimal digits, or as itself. A whole number is written
without zeros in front of it, so that its digits are one number to the reader.

Key definitions: `Json.EndsValue`.
Key theorems: `Json.readString_quoted`, `Json.numeral_digits`, `Json.wordAt_append`.
-/
import SchemaMap.Json.Reader
import SchemaMap.Json.Value
import SchemaMap.Proofs.Text.Class
import Mathlib.Data.List.Basic
import Mathlib.Tactic.SplitIfs

namespace SchemaMap
namespace Json

open Text

/-! ### Cursors -/

namespace Cursor

theorem advance_rest : ∀ (n : Nat) (s : Cursor), (s.advance n).rest = s.rest.drop n
  | 0, _ => rfl
  | n + 1, s => by
    rw [advance]
    split
    · rename_i h
      rw [h, List.drop_nil]
    · rename_i c cs h
      rw [advance_rest n, h, List.drop_succ_cons]

theorem advance_append {s : Cursor} {a b : List Char} (h : s.rest = a ++ b) :
    (s.advance a.length).rest = b := by
  rw [advance_rest, h, List.drop_left]

/-- In front of anything but white space, there is nothing to pass over. -/
theorem skipSpace_of_head {s : Cursor} {c : Char} {cs : List Char} (h : s.rest = c :: cs)
    (hc : isSpace c = false) : s.skipSpace = s := by
  have hnil : s.rest.takeWhile isSpace = [] := by
    rw [h, List.takeWhile_cons_of_neg (by simp [hc])]
  rw [skipSpace, hnil]
  rfl

end Cursor

/-! ### Texts between quotes -/

/-- Four hexadecimal digits stand for the control character they were written for. -/
theorem hexNumber?_control : ∀ n < 32, ∀ rest : List Char,
    hexNumber? ('0' :: '0' :: hexPadded 2 n ++ rest) = some n ∧ (hexPadded 2 n).length = 2 ∧
      isTrailing n = false ∧ isLeading n = false := by
  have h : ∀ n < 32, hexNumber? ('0' :: '0' :: hexPadded 2 n) = some n ∧
      (hexPadded 2 n).length = 2 ∧ isTrailing n = false ∧ isLeading n = false := by
    decide
  intro n hn rest
  obtain ⟨hnum, hlen, hrange⟩ := h n hn
  obtain ⟨a, b, hab⟩ := List.length_eq_two.1 hlen
  rw [hab] at hnum ⊢
  exact ⟨hnum, rfl, hrange⟩

/-- The three ways in which a character is written. -/
theorem escapedChar_cases (c : Char) :
    (∃ e, escapedChar c = ['\\', e] ∧ e ≠ 'u' ∧ shortEscapes.lookup e = some c) ∨
    (escapedChar c = ['\\', 'u', '0', '0'] ++ hexPadded 2 c.toNat ∧ c.toNat < 32) ∨
    (escapedChar c = [c] ∧ c ≠ '"' ∧ c ≠ '\\' ∧ ¬c.toNat < 32) := by
  unfold escapedChar
  split_ifs with h1 h2 h3 h4 h5 h6 h7 h8
  · left; exact ⟨'"', rfl, by decide, by rw [h1]; rfl⟩
  · left; exact ⟨'\\', rfl, by decide, by rw [h2]; rfl⟩
  · left; exact ⟨'n', rfl, by decide, by rw [h3]; rfl⟩
  · left; exact ⟨'r', rfl, by decide, by rw [h4]; rfl⟩
  · left; exact ⟨'t', rfl, by decide, by rw [h5]; rfl⟩
  · left; exact ⟨'b', rfl, by decide, by rw [h6]; rfl⟩
  · left; exact ⟨'f', rfl, by decide, by rw [h7]; rfl⟩
  · right; left; exact ⟨rfl, h8⟩
  · right; right; exact ⟨rfl, h1, h2, h8⟩

theorem escapeAt_short {s : Cursor} {e c : Char} {rest : List Char} (h : s.rest = e :: rest)
    (he : e ≠ 'u') (hc : shortEscapes.lookup e = some c) : escapeAt s = .char c 2 := by
  unfold escapeAt
  rw [h]
  split
  · rename_i heq; cases heq
  · rename_i heq; exact absurd (List.cons.inj heq).1 he
  · rename_i d more _ heq
    obtain ⟨rfl, -⟩ := List.cons.inj heq
    rw [hc]

theorem escapeAt_control {s : Cursor} {c : Char} {rest : List Char} (hc : c.toNat < 32)
    (h : s.rest = 'u' :: '0' :: '0' :: hexPadded 2 c.toNat ++ rest) : escapeAt s = .char c 6 := by
  obtain ⟨hnum, -, htrailing, hleading⟩ := hexNumber?_control c.toNat hc rest
  have hdigits : (s.advance 1).rest = '0' :: '0' :: hexPadded 2 c.toNat ++ rest := by
    rw [Cursor.advance_rest, h]
    rfl
  have hnumber : numberEscape (s.advance 1) = .char c 6 := by
    unfold numberEscape
    rw [hdigits, hnum]
    simp [htrailing, hleading, Char.ofNat_toNat]
  unfold escapeAt
  rw [h]
  exact hnumber

/-- A written character is read as a whole: a quote in it does not end the text. -/
theorem stringBody_escapedChar (c : Char) (fuel : Nat) (seen : List Char) {s : Cursor}
    {rest : List Char} (h : s.rest = escapedChar c ++ rest) :
    ∃ s', stringBody (fuel + 1) seen none s = stringBody fuel (c :: seen) none s' ∧
      s'.rest = rest := by
  refine ⟨s.advance (escapedChar c).length, ?_, Cursor.advance_append h⟩
  rw [stringBody]
  rcases escapedChar_cases c with ⟨e, he, hu, hlookup⟩ | ⟨he, hc⟩ | ⟨he, hquote, hslash, hc⟩
  · rw [he] at h ⊢
    have hnext : (s.advance 1).rest = e :: rest := by rw [Cursor.advance_rest, h]; rfl
    simp only [h, List.cons_append, escapeAt_short hnext hu hlookup]
    rfl
  · rw [he] at h ⊢
    have hnext : (s.advance 1).rest = 'u' :: '0' :: '0' :: hexPadded 2 c.toNat ++ rest := by
      rw [Cursor.advance_rest, h]
      rfl
    have hlen : (['\\', 'u', '0', '0'] ++ hexPadded 2 c.toNat).length = 6 := by
      rw [List.length_append, (hexNumber?_control c.toNat hc []).2.1]
      rfl
    rw [hlen]
    simp only [h, List.cons_append, escapeAt_control hc hnext]
  · rw [he] at h ⊢
    rw [List.singleton_append] at h
    rw [h]
    split
    · rename_i heq; cases heq
    · rename_i heq; exact absurd (List.cons.inj heq).1 hquote
    · rename_i heq; exact absurd (List.cons.inj heq).1 hslash
    · rename_i d more _ _ heq
      obtain ⟨rfl, -⟩ := List.cons.inj heq
      rw [if_neg hc]
      rfl

theorem stringBody_written : ∀ (cs : List Char) (fuel : Nat) (seen : List Char) {s : Cursor}
    {rest : List Char}, cs.length < fuel → s.rest = cs.flatMap escapedChar ++ '"' :: rest →
    ∃ s', stringBody fuel seen none s = .ok (.ok (String.ofList (seen.reverse ++ cs)), s') ∧
      s'.rest = rest
  | [], fuel + 1, seen, s, rest, _, h => by
    rw [List.flatMap_nil, List.nil_append] at h
    refine ⟨s.advance 1, ?_, by rw [Cursor.advance_rest, h]; rfl⟩
    rw [stringBody, h, List.append_nil]
    rfl
  | c :: cs, fuel + 1, seen, s, rest, hf, h => by
    rw [List.flatMap_cons, List.append_assoc] at h
    obtain ⟨s', hstep, hs'⟩ := stringBody_escapedChar c fuel seen h
    have hlen : cs.length < fuel := Nat.lt_of_succ_lt_succ hf
    obtain ⟨s'', hread, hs''⟩ := stringBody_written cs fuel (c :: seen) hlen hs'
    refine ⟨s'', ?_, hs''⟩
    rw [hstep, hread, List.reverse_cons, List.append_assoc, List.singleton_append]

theorem escapedChar_ne_nil (c : Char) : escapedChar c ≠ [] := by
  rcases escapedChar_cases c with ⟨e, he, -⟩ | ⟨he, -⟩ | ⟨he, -⟩ <;> rw [he] <;> simp

theorem length_le_escaped : ∀ cs : List Char, cs.length ≤ (cs.flatMap escapedChar).length
  | [] => Nat.le_refl 0
  | c :: cs => by
    have ih := length_le_escaped cs
    have hpos := List.length_pos_iff.2 (escapedChar_ne_nil c)
    rw [List.flatMap_cons, List.length_append, List.length_cons]
    omega

/-- **A text between quotes ends at its own quote**, and is read as it was written. -/
theorem readString_quoted (name : String) {s : Cursor} {rest : List Char}
    (h : s.rest = quoted name.toList ++ rest) :
    ∃ s', readString (s.advance 1) = .ok (.ok name, s') ∧ s'.rest = rest := by
  have hbody : (s.advance 1).rest = name.toList.flatMap escapedChar ++ '"' :: rest := by
    rw [Cursor.advance_rest, h, quoted]
    simp
  have hfuel : name.toList.length < (s.advance 1).rest.length + 1 := by
    have hle := length_le_escaped name.toList
    rw [hbody, List.length_append]
    omega
  obtain ⟨s', hread, hs'⟩ := stringBody_written name.toList _ [] hfuel hbody
  refine ⟨s', ?_, hs'⟩
  rw [readString, hread, List.reverse_nil, List.nil_append, String.ofList_toList]

/-! ### Whole numbers -/

/-- What may follow a value: nothing, or a mark that goes on with the list around it. -/
def EndsValue (rest : List Char) : Prop :=
  ∀ c ∈ rest.head?, c ∈ [',', ']', '\x7d']

theorem endsValue_nil : EndsValue [] :=
  fun _ h => absurd h (by simp)

theorem endsValue_cons {c : Char} (h : c ∈ [',', ']', '\x7d']) (rest : List Char) :
    EndsValue (c :: rest) := by
  intro d hd
  obtain rfl := Option.some.inj hd
  exact h

theorem isAsciiDigit_of_mem_toDigits {n : Nat} {c : Char} (h : c ∈ Nat.toDigits 10 n) :
    isAsciiDigit c = true := by
  have hc := Char.isDigit_iff_toNat.1 (Nat.isDigit_of_mem_toDigits (by decide) (by decide) h)
  simp only [isAsciiDigit, Bool.and_eq_true, decide_eq_true_eq, Char.le_def,
    UInt32.le_iff_toNat_le]
  exact hc

theorem valueOfDigits_toDigits (n : Nat) : valueOfDigits (Nat.toDigits 10 n) = n :=
  Nat.ofDigitChars_ten_toDigits

/-- A number above zero does not start with a zero. -/
theorem head?_toDigits_ne_zero {n : Nat} (hn : 0 < n) : (Nat.toDigits 10 n).head? ≠ some '0' := by
  induction n using Nat.strongRecOn with
  | ind n ih =>
    by_cases h : n < 10
    · have hdigit : ∀ m < 10, 0 < m → (some m.digitChar) ≠ some '0' := by decide
      rw [Nat.toDigits_of_lt_base h]
      exact hdigit n h hn
    · have hdiv : 0 < n / 10 := Nat.div_pos (by omega) (by decide)
      have hlt : n / 10 < n := Nat.div_lt_self hn (by decide)
      rw [Nat.toDigits_of_base_le (by decide) (by omega),
        List.head?_append_of_ne_nil _ Nat.toDigits_ne_nil]
      exact ih (n / 10) hlt hdiv

theorem toDigits_ne_zero_cons (n : Nat) (d : Char) (ds : List Char) :
    Nat.toDigits 10 n ≠ '0' :: d :: ds := by
  intro h
  rcases Nat.eq_zero_or_pos n with rfl | hn
  · have hzero : Nat.toDigits 10 0 = ['0'] := rfl
    rw [hzero] at h
    cases h
  · exact head?_toDigits_ne_zero hn (by rw [h]; rfl)

/-- In front of what ends a value, the digits are read to the last. -/
theorem digitRun_append {s : Cursor} {ds rest : List Char} (h : s.rest = ds ++ rest)
    (hds : ∀ c ∈ ds, isAsciiDigit c = true) (hrest : EndsValue rest) :
    digitRun s = (ds, s.advance ds.length) := by
  have hrun : s.rest.takeWhile isAsciiDigit = ds := by
    rw [h, List.takeWhile_append_of_pos hds]
    cases rest with
    | nil => exact List.append_nil ds
    | cons c cs =>
      have hdigit : ∀ c ∈ [',', ']', '\x7d'], ¬isAsciiDigit c = true :=
        forall_mem_of_all (by decide)
      rw [List.takeWhile_cons_of_neg (hdigit c (hrest c rfl)), List.append_nil]
  rw [digitRun, hrun]

theorem fractionAt_endsValue {s : Cursor} (h : EndsValue s.rest) : fractionAt s = .ok (none, s) := by
  unfold fractionAt
  split
  · rename_i heq
    exact absurd (h '.' (by rw [heq]; rfl)) (by decide)
  · rfl

theorem exponentAt_endsValue {s : Cursor} (h : EndsValue s.rest) :
    exponentAt s = .ok (none, s) := by
  unfold exponentAt
  cases hrest : s.rest with
  | nil => rfl
  | cons c cs =>
    have hmark : ∀ c ∈ [',', ']', '\x7d'], ¬(c == 'e' || c == 'E') = true :=
      forall_mem_of_all (by decide)
    simp only [if_neg (hmark c (h c (by rw [hrest]; rfl)))]

/-- **A whole number of 64 bits is read as it was written.** -/
theorem numeral_digits {n : Nat} (hn : n ≤ Numeral.maxWhole) {s : Cursor} {rest : List Char}
    (h : s.rest = Nat.toDigits 10 n ++ rest) (hrest : EndsValue rest) :
    ∃ x s', numeral s = .ok (x, s') ∧ x.kind = .natural n ∧ s'.rest = rest := by
  have hdigits : ∀ c ∈ Nat.toDigits 10 n, isAsciiDigit c = true := fun c hc =>
    isAsciiDigit_of_mem_toDigits hc
  have hnext : (s.advance (Nat.toDigits 10 n).length).rest = rest := Cursor.advance_append h
  refine ⟨⟨false, Nat.toDigits 10 n, none, none⟩, _, ?_, ?_, hnext⟩
  · have hunsigned : numeral s = unsignedNumeral false s := by
      unfold numeral
      split
      · rename_i heq
        obtain ⟨d, ds, hd⟩ := List.exists_cons_of_ne_nil (Nat.toDigits_ne_nil (n := n) (b := 10))
        rw [h, hd] at heq
        have hminus := hdigits d (by rw [hd]; exact List.mem_cons_self)
        rw [(List.cons.inj heq).1] at hminus
        exact absurd hminus (by decide)
      · rfl
    rw [hunsigned, unsignedNumeral, digitRun_append h hdigits hrest]
    split
    · rename_i heq
      exact absurd (Prod.mk.inj heq).1 Nat.toDigits_ne_nil
    · rename_i heq
      exact absurd (Prod.mk.inj heq).1 (toDigits_ne_zero_cons n _ _)
    · rename_i heq
      obtain ⟨rfl, rfl⟩ := Prod.mk.inj heq
      rw [fractionAt_endsValue (by rw [hnext]; exact hrest)]
      simp only
      rw [exponentAt_endsValue (by rw [hnext]; exact hrest)]
  · simp [Numeral.kind, valueOfDigits_toDigits, hn]

/-! ### Values without parts -/

theorem wordAt_append : ∀ (w : List Char) {s : Cursor} {rest : List Char}, s.rest = w ++ rest →
    ∃ s', wordAt w s = .ok s' ∧ s'.rest = rest
  | [], s, rest, h => ⟨s, rfl, h⟩
  | c :: w, s, rest, h => by
    rw [List.cons_append] at h
    have hrest : (s.advance 1).rest = w ++ rest := by rw [Cursor.advance_rest, h]; rfl
    obtain ⟨s', hread, hs'⟩ := wordAt_append w hrest
    refine ⟨s', ?_, hs'⟩
    rw [wordAt, h]
    simp only [if_pos]
    exact hread

end Json
end SchemaMap
