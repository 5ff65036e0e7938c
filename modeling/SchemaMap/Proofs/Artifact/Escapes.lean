/-
# What the body of a quoted text stands for

The body of a quoted text is told here without a reader: a character other than a backslash stands
for itself, and a backslash starts one of six escapes (`Artifact.Escape`, `Artifact.StandsFor`). No
escape is the start of another, so a body stands for one text at most.

`Artifact.decoded` reads every such body as it should. But it takes what may be the two digits of an
escape before it looks at them, and leaves them to a reader of numbers, for which a single digit is
a number too, and which allows for a plus sign. So it also accepts bodies that are cut off behind
the first digit, or that have a plus sign in its place (`Artifact.IsLax`), and besides these none
(`Artifact.standsFor_iff_decoded`).

Key definitions: `Artifact.HexDigit`, `Artifact.Escape`, `Artifact.StandsFor`, `Artifact.IsLax`.
Key theorems: `Artifact.decoded_of_standsFor`, `Artifact.standsFor_or_isLax`,
`Artifact.StandsFor.behind`, `Artifact.standsFor_iff_decoded`.
-/
import SchemaMap.Proofs.Artifact.Quoting
import SchemaMap.Proofs.Text.Class
import Mathlib.Tactic.SplitIfs

namespace SchemaMap
namespace Artifact

/-! ### Hexadecimal digits -/

/-- The character `c` is the hexadecimal digit for `n`, in either case. -/
def HexDigit (c : Char) (n : Nat) : Prop :=
  n < 16 ∧ (c = Nat.digitChar n ∨ c = Text.asciiUpper (Nat.digitChar n))

instance (c : Char) (n : Nat) : Decidable (HexDigit c n) :=
  inferInstanceAs (Decidable (_ ∧ _))

theorem toNat_of_isHexDigit {c : Char} (h : Text.isHexDigit c = true) : c.toNat < 128 := by
  simp only [Text.isHexDigit, Bool.or_eq_true, Bool.and_eq_true, decide_eq_true_eq, Char.le_def,
    UInt32.le_iff_toNat_le] at h
  rcases h with (hdigit | hlower) | hupper
  · have hbounds := Text.toNat_of_isAsciiDigit hdigit
    omega
  · simp at hlower
    omega
  · simp at hupper
    omega

/-- A digit is the digit for its value. -/
theorem hexDigit_of_isHexDigit {c : Char} (h : Text.isHexDigit c = true) :
    HexDigit c (byteChar?.hexValue c) := by
  have hall : ∀ n < 128, Text.isHexDigit (Char.ofNat n) = true →
      HexDigit (Char.ofNat n) (byteChar?.hexValue (Char.ofNat n)) := by
    decide
  have hc := hall c.toNat (toNat_of_isHexDigit h)
  rw [Char.ofNat_toNat] at hc
  exact hc h

theorem isHexDigit_of_hexDigit {c : Char} {n : Nat} (h : HexDigit c n) :
    Text.isHexDigit c = true ∧ byteChar?.hexValue c = n ∧ c ≠ '+' := by
  obtain ⟨hn, rfl | rfl⟩ := h
  · have hlower : ∀ n < 16, Text.isHexDigit (Nat.digitChar n) = true ∧
        byteChar?.hexValue (Nat.digitChar n) = n ∧ Nat.digitChar n ≠ '+' := by
      decide
    exact hlower n hn
  · have hupper : ∀ n < 16, Text.isHexDigit (Text.asciiUpper (Nat.digitChar n)) = true ∧
        byteChar?.hexValue (Text.asciiUpper (Nat.digitChar n)) = n ∧
        Text.asciiUpper (Nat.digitChar n) ≠ '+' := by
      decide
    exact hupper n hn

theorem HexDigit.unique {c : Char} {m n : Nat} (hm : HexDigit c m) (hn : HexDigit c n) : m = n :=
  (isHexDigit_of_hexDigit hm).2.1.symm.trans (isHexDigit_of_hexDigit hn).2.1

theorem byteChar?_digits {a b : Char} {m n : Nat} (ha : HexDigit a m) (hb : HexDigit b n) :
    byteChar? [a, b] = some (Char.ofNat (16 * m + n)) := by
  obtain ⟨hada, rfl, hplus⟩ := isHexDigit_of_hexDigit ha
  obtain ⟨hbdb, rfl, -⟩ := isHexDigit_of_hexDigit hb
  simp [byteChar?, hplus, hada, hbdb]

/-- What may stand for the digits of an escape and is taken for them, although it is none. -/
inductive LaxDigits : List Char → Prop where
  /-- A plus sign and a digit. -/
  | plus {d : Char} {n : Nat} {rest : List Char} : HexDigit d n → LaxDigits ('+' :: d :: rest)
  /-- A digit at the end. -/
  | single {d : Char} {n : Nat} : HexDigit d n → LaxDigits [d]

/-- What is read as a number: two digits, or what is taken for them. -/
theorem byteChar?_pair {a b c : Char} (h : byteChar? [a, b] = some c) (rest : List Char) :
    (∃ m n, HexDigit a m ∧ HexDigit b n ∧ c = Char.ofNat (16 * m + n)) ∨
      LaxDigits (a :: b :: rest) := by
  by_cases hplus : a = '+'
  · subst hplus
    right
    by_cases hb : Text.isHexDigit b = true
    · exact .plus (hexDigit_of_isHexDigit hb)
    · simp [byteChar?, hb] at h
  · left
    by_cases hdigits : Text.isHexDigit a = true ∧ Text.isHexDigit b = true
    · refine ⟨_, _, hexDigit_of_isHexDigit hdigits.1, hexDigit_of_isHexDigit hdigits.2, ?_⟩
      simpa [byteChar?, hplus, hdigits, eq_comm] using h
    · simp [byteChar?, hplus] at h
      exact absurd h.1 hdigits

theorem byteChar?_single {a c : Char} (h : byteChar? [a] = some c) : LaxDigits [a] := by
  by_cases ha : Text.isHexDigit a = true
  · exact .single (hexDigit_of_isHexDigit ha)
  · by_cases hplus : a = '+'
    · subst hplus
      simp [byteChar?] at h
    · simp [byteChar?, hplus, ha] at h

/-! ### Escapes -/

/-- The letters behind a backslash and what they stand for. -/
def letterEscapes : List (Char × Char) :=
  [('"', '"'), ('\\', '\\'), ('n', '\n'), ('r', '\r'), ('t', '\t')]

/-- What stands behind the backslash of an escape, and the character that it stands for: two digits
stand for the character with their number. -/
inductive Escape : List Char → Char → Prop where
  | letter {e c : Char} : (e, c) ∈ letterEscapes → Escape [e] c
  | digits {a b : Char} {m n : Nat} : HexDigit a m → HexDigit b n →
      Escape ['x', a, b] (Char.ofNat (16 * m + n))

theorem shortEscape?_eq_some_iff {e c : Char} :
    shortEscape? e = some c ↔ (e, c) ∈ letterEscapes := by
  unfold shortEscape? letterEscapes
  split_ifs <;> simp_all [eq_comm]

theorem ne_of_mem_letterEscapes {e c : Char} (h : (e, c) ∈ letterEscapes) : e ≠ 'x' := by
  have hall : ∀ p ∈ letterEscapes, p.1 ≠ 'x' := by decide
  exact hall _ h

/-- No escape is the start of another one. -/
theorem Escape.cancel {e e' body body' : List Char} {c c' : Char} (h : Escape e c)
    (h' : Escape e' c') (heq : e ++ body = e' ++ body') : c = c' ∧ body = body' := by
  cases h with
  | letter hm =>
    cases h' with
    | letter hm' =>
      obtain ⟨rfl, rfl⟩ := List.cons.inj heq
      rw [← shortEscape?_eq_some_iff] at hm hm'
      exact ⟨Option.some.inj (hm.symm.trans hm'), rfl⟩
    | digits ha hb => exact absurd (List.cons.inj heq).1 (ne_of_mem_letterEscapes hm)
  | digits ha hb =>
    cases h' with
    | letter hm' => exact absurd (List.cons.inj heq).1.symm (ne_of_mem_letterEscapes hm')
    | digits ha' hb' =>
      simp only [List.cons_append, List.nil_append, List.cons.injEq, true_and] at heq
      obtain ⟨rfl, rfl, rfl⟩ := heq
      rw [ha.unique ha', hb.unique hb']
      exact ⟨rfl, rfl⟩

/-- The body of a quoted text, and the text that it stands for. -/
inductive StandsFor : List Char → List Char → Prop where
  | nil : StandsFor [] []
  | plain {c : Char} {body cs : List Char} : c ≠ '\\' → StandsFor body cs →
      StandsFor (c :: body) (c :: cs)
  | escape {e : List Char} {c : Char} {body cs : List Char} : Escape e c → StandsFor body cs →
      StandsFor ('\\' :: (e ++ body)) (c :: cs)

/-- Behind a character that stands for itself, the rest stands for the rest. -/
theorem StandsFor.tail {c : Char} {body cs : List Char} (hc : c ≠ '\\')
    (h : StandsFor (c :: body) cs) : ∃ ds, cs = c :: ds ∧ StandsFor body ds := by
  generalize hall : c :: body = all at h
  cases h with
  | nil => cases hall
  | plain _ hmore =>
    obtain ⟨rfl, rfl⟩ := List.cons.inj hall
    exact ⟨_, rfl, hmore⟩
  | escape _ _ => exact absurd (List.cons.inj hall).1 hc

/-- Behind a backslash stands the rest of an escape. -/
theorem StandsFor.backslash {body cs : List Char} (h : StandsFor ('\\' :: body) cs) :
    ∃ e c more ds, Escape e c ∧ body = e ++ more ∧ cs = c :: ds ∧ StandsFor more ds := by
  generalize hall : '\\' :: body = all at h
  cases h with
  | nil => cases hall
  | plain hc _ => exact absurd (List.cons.inj hall).1.symm hc
  | escape he hmore => exact ⟨_, _, _, _, he, (List.cons.inj hall).2, rfl, hmore⟩

/-- What is left of a body behind what stands for some text stands for a text, too. -/
theorem StandsFor.behind {front cs : List Char} (h : StandsFor front cs) :
    ∀ {rest ds : List Char}, StandsFor (front ++ rest) ds → ∃ es, StandsFor rest es := by
  induction h with
  | nil => exact fun hall => ⟨_, hall⟩
  | plain hc _ ih =>
    intro rest ds hall
    obtain ⟨_, -, hmore⟩ := hall.tail hc
    exact ih hmore
  | escape he _ ih =>
    intro rest ds hall
    rw [List.cons_append, List.append_assoc] at hall
    obtain ⟨e, c, more, _, he', heq, -, hmore⟩ := hall.backslash
    obtain ⟨-, rfl⟩ := he.cancel he' heq
    exact ih hmore

/-- A body in which, behind what stands for some text, an escape has digits that are none. -/
def IsLax (body : List Char) : Prop :=
  ∃ front cs rest, StandsFor front cs ∧ LaxDigits rest ∧ body = front ++ '\\' :: 'x' :: rest

/-- Digits that are none make no escape. -/
theorem LaxDigits.not_standsFor {rest : List Char} (h : LaxDigits rest) (cs : List Char) :
    ¬StandsFor ('\\' :: 'x' :: rest) cs := by
  intro hs
  obtain ⟨e, c, more, _, he, heq, -, -⟩ := hs.backslash
  cases he with
  | letter hm => exact ne_of_mem_letterEscapes hm (List.cons.inj heq).1.symm
  | digits ha hb =>
    have hrest := (List.cons.inj heq).2
    cases h with
    | plus _ => exact (isHexDigit_of_hexDigit ha).2.2 (List.cons.inj hrest).1.symm
    | single _ => cases (List.cons.inj hrest).2

/-- A lax body stands for no text. -/
theorem IsLax.not_standsFor {body : List Char} (h : IsLax body) (cs : List Char) :
    ¬StandsFor body cs := by
  obtain ⟨front, ds, rest, hfront, hrest, rfl⟩ := h
  intro hall
  obtain ⟨es, hbehind⟩ := hfront.behind hall
  exact hrest.not_standsFor es hbehind

theorem IsLax.cons {c : Char} {body : List Char} (hc : c ≠ '\\') (h : IsLax body) :
    IsLax (c :: body) := by
  obtain ⟨front, cs, rest, hfront, hrest, rfl⟩ := h
  exact ⟨c :: front, c :: cs, rest, .plain hc hfront, hrest, rfl⟩

theorem IsLax.escape {e : List Char} {c : Char} {body : List Char} (he : Escape e c)
    (h : IsLax body) : IsLax ('\\' :: (e ++ body)) := by
  obtain ⟨front, cs, rest, hfront, hrest, rfl⟩ := h
  exact ⟨'\\' :: (e ++ front), c :: cs, rest, .escape he hfront, hrest, by simp⟩

/-! ### The reader -/

theorem behind_eq_ok {c : Char} {x : Except Fault (List Char)} {cs : List Char}
    (h : behind c x = .ok cs) : ∃ ds, x = .ok ds ∧ cs = c :: ds := by
  cases x with
  | error e => cases h
  | ok ds => exact ⟨ds, rfl, (Except.ok.inj h).symm⟩

theorem decoded_escape {e : List Char} {c : Char} (h : Escape e c) (body : List Char) :
    decoded ('\\' :: (e ++ body)) = behind c (decoded body) := by
  cases h with
  | letter hm =>
    exact decoded_short (ne_of_mem_letterEscapes hm) (shortEscape?_eq_some_iff.2 hm) body
  | digits ha hb => exact decoded_digits (byteChar?_digits ha hb) body

/-- What stands for a text is read as it. -/
theorem decoded_of_standsFor {body cs : List Char} (h : StandsFor body cs) :
    decoded body = .ok cs := by
  induction h with
  | nil => rfl
  | plain hc _ ih => rw [decoded_of_ne hc, ih, behind]
  | escape he _ ih => rw [decoded_escape he, ih, behind]

/-- What is taken for the digits of an escape: two digits, or what is none. -/
theorem decoded_x {body cs : List Char} (h : decoded ('\\' :: 'x' :: body) = .ok cs) :
    (∃ a b m n more ds, HexDigit a m ∧ HexDigit b n ∧ body = a :: b :: more ∧
        cs = Char.ofNat (16 * m + n) :: ds ∧ decoded more = .ok ds) ∨ LaxDigits body := by
  match body with
  | [] => cases h
  | [a] =>
    rw [decoded] at h
    cases hbyte : byteChar? [a] with
    | none => rw [hbyte] at h; cases h
    | some c => exact .inr (byteChar?_single hbyte)
  | a :: b :: more =>
    rw [decoded] at h
    cases hbyte : byteChar? [a, b] with
    | none => rw [hbyte] at h; cases h
    | some c =>
      rw [hbyte] at h
      rcases byteChar?_pair hbyte more with ⟨m, n, ha, hb, rfl⟩ | hlax
      · obtain ⟨ds, hds, rfl⟩ := behind_eq_ok h
        exact .inl ⟨a, b, m, n, more, ds, ha, hb, rfl, rfl, hds⟩
      · exact .inr hlax

/-- What is read behind a backslash: an escape and the rest, or digits that are none. -/
theorem decoded_backslash {body cs : List Char} (h : decoded ('\\' :: body) = .ok cs) :
    (∃ e c more ds, Escape e c ∧ body = e ++ more ∧ cs = c :: ds ∧ decoded more = .ok ds) ∨
      ∃ rest, LaxDigits rest ∧ body = 'x' :: rest := by
  cases body with
  | nil => cases h
  | cons e more =>
    by_cases he : e = 'x'
    · subst he
      rcases decoded_x h with ⟨a, b, m, n, more, ds, ha, hb, rfl, rfl, hds⟩ | hlax
      · exact .inl ⟨_, _, more, ds, .digits ha hb, rfl, rfl, hds⟩
      · exact .inr ⟨more, hlax, rfl⟩
    · cases hc : shortEscape? e with
      | none =>
        rw [decoded] at h <;> simp_all
      | some c =>
        rw [decoded_short he hc] at h
        obtain ⟨ds, hds, rfl⟩ := behind_eq_ok h
        exact .inl ⟨_, c, more, ds, .letter (shortEscape?_eq_some_iff.1 hc), rfl, rfl, hds⟩

/-- **What is read** stands for the text that it is read as, or is lax. -/
theorem standsFor_or_isLax : ∀ {body cs : List Char}, decoded body = .ok cs →
    StandsFor body cs ∨ IsLax body
  | [], cs, h => by
    obtain rfl : [] = cs := Except.ok.inj h
    exact .inl .nil
  | d :: body, cs, h => by
    by_cases hd : d = '\\'
    · subst hd
      rcases decoded_backslash h with ⟨e, c, more, ds, he, rfl, rfl, hmore⟩ | ⟨rest, hrest, rfl⟩
      · have ih := standsFor_or_isLax hmore
        exact ih.imp (.escape he) (.escape he)
      · exact .inr ⟨[], [], rest, .nil, hrest, rfl⟩
    · rw [decoded_of_ne hd] at h
      obtain ⟨ds, hds, rfl⟩ := behind_eq_ok h
      exact (standsFor_or_isLax hds).imp (.plain hd) (.cons hd)
termination_by body => body.length

/-- **Which bodies are read.** A body stands for a text just where it is read as it and is not lax.
So where no escape is cut off behind its first digit or has a plus sign in its place, exactly the
bodies that stand for a text are accepted, and all others are a failure. -/
theorem standsFor_iff_decoded (body cs : List Char) :
    StandsFor body cs ↔ decoded body = .ok cs ∧ ¬IsLax body := by
  constructor
  · exact fun h => ⟨decoded_of_standsFor h, fun hlax => hlax.not_standsFor cs h⟩
  · rintro ⟨hread, hstrict⟩
    exact (standsFor_or_isLax hread).resolve_right hstrict

/-- One digit at the end, and a plus sign in front of one, are read as the number of the digit. -/
theorem lax_bodies_decoded :
    decoded "\\x1".toList = .ok ['\x01'] ∧ decoded "\\x+1".toList = .ok ['\x01'] ∧
      ∀ cs, ¬StandsFor "\\x1".toList cs ∧ ¬StandsFor "\\x+1".toList cs := by
  have hone : HexDigit '1' 1 := by decide
  exact ⟨rfl, rfl, fun cs =>
    ⟨(LaxDigits.single hone).not_standsFor cs, (LaxDigits.plus hone).not_standsFor cs⟩⟩

end Artifact
end SchemaMap
