/-
# A quoted text reads back

What `Artifact.quoted` writes is read by `Artifact.literal?` up to its own closing quote,
whatever follows it, and `Artifact.decoded` gives back the text that was quoted. A quoted text
holds no line feed, so it never ends the line it stands in.

A character is written in one of three ways (`quotedChar_cases`): behind a backslash as one
letter, behind a backslash as two hexadecimal digits, or as itself. The readers are followed
through these three only.

Key definitions: `Artifact.quotedBody`.
Key theorems: `Artifact.literal?_quoted`, `Artifact.decoded_quotedBody`,
`Artifact.newline_notMem_quoted`.
-/
import SchemaMap.Artifact.Quoted
import Mathlib.Tactic.SplitIfs

namespace SchemaMap
namespace Artifact

/-- What stands between the quotes of a quoted text. -/
def quotedBody (cs : List Char) : List Char :=
  cs.flatMap quotedChar

theorem quoted_eq (cs : List Char) : quoted cs = '"' :: (quotedBody cs ++ ['"']) := rfl

@[simp] theorem quotedBody_nil : quotedBody [] = [] := rfl

@[simp] theorem quotedBody_cons (c : Char) (cs : List Char) :
    quotedBody (c :: cs) = quotedChar c ++ quotedBody cs := by
  simp [quotedBody]

/-- A character that neither ends a quoted text nor the line, nor starts an escape. -/
def IsPlain (c : Char) : Prop :=
  c ≠ '"' ∧ c ≠ '\\' ∧ c ≠ '\n'

instance (c : Char) : Decidable (IsPlain c) := by
  unfold IsPlain; infer_instance

/-- Two hexadecimal digits stand for the number they were written for. -/
theorem hexPadded_two : ∀ n < 128,
    Text.hexPadded 2 n = [Nat.digitChar (n / 16), Nat.digitChar (n % 16)]
      ∧ IsPlain (Nat.digitChar (n / 16)) ∧ IsPlain (Nat.digitChar (n % 16))
      ∧ byteChar? (Text.hexPadded 2 n) = some (Char.ofNat n) := by
  decide

/-- The three ways in which a character is written. -/
theorem quotedChar_cases (c : Char) :
    (∃ e, quotedChar c = ['\\', e] ∧ e ≠ 'x' ∧ e ≠ '\n' ∧ shortEscape? e = some c) ∨
    (∃ a b, quotedChar c = ['\\', 'x', a, b] ∧ IsPlain a ∧ IsPlain b ∧
      byteChar? [a, b] = some c) ∨
    (quotedChar c = [c] ∧ IsPlain c) := by
  unfold quotedChar
  split_ifs with h1 h2 h3 h4 h5 h6
  · left; exact ⟨'"', rfl, by decide, by decide, by subst h1; rfl⟩
  · left; exact ⟨'\\', rfl, by decide, by decide, by subst h2; rfl⟩
  · left; exact ⟨'n', rfl, by decide, by decide, by subst h3; rfl⟩
  · left; exact ⟨'r', rfl, by decide, by decide, by subst h4; rfl⟩
  · left; exact ⟨'t', rfl, by decide, by decide, by subst h5; rfl⟩
  · right; left
    obtain ⟨hab, ha, hb, hc⟩ := hexPadded_two c.toNat (by omega)
    rw [hab, Char.ofNat_toNat] at hc
    exact ⟨_, _, by rw [hab], ha, hb, hc⟩
  · right; right; exact ⟨rfl, h1, h2, h3⟩

/-! ### Where a quoted text ends -/

theorem literalBody?_escape {e : Char} (he : e ≠ '\n') (cs : List Char) :
    literalBody? ('\\' :: e :: cs) =
      (literalBody? cs).map fun (body, rest) => ('\\' :: e :: body, rest) := by
  simp [literalBody?, he]

theorem literalBody?_of_ne {c : Char} (hquote : c ≠ '"') (hback : c ≠ '\\') (cs : List Char) :
    literalBody? (c :: cs) = (literalBody? cs).map fun (body, rest) => (c :: body, rest) := by
  rw [literalBody?] <;> simp [hquote, hback]

/-- A written character is passed over as a whole: a quote in it does not end the text. -/
theorem literalBody?_quotedChar (c : Char) (cs : List Char) :
    literalBody? (quotedChar c ++ cs) =
      (literalBody? cs).map fun (body, rest) => (quotedChar c ++ body, rest) := by
  rcases quotedChar_cases c with ⟨e, h, -, he, -⟩ | ⟨a, b, h, ha, hb, -⟩ | ⟨h, hc⟩
  · rw [h]
    exact literalBody?_escape he cs
  · rw [h]
    show literalBody? ('\\' :: 'x' :: a :: b :: cs) = _
    rw [literalBody?_escape (by decide), literalBody?_of_ne ha.1 ha.2.1,
      literalBody?_of_ne hb.1 hb.2.1]
    simp only [Option.map_map]
    rfl
  · rw [h]
    exact literalBody?_of_ne hc.1 hc.2.1 cs

theorem literalBody?_quotedBody : ∀ cs rest : List Char,
    literalBody? (quotedBody cs ++ '"' :: rest) = some (quotedBody cs, rest)
  | [], rest => by simp [literalBody?]
  | c :: cs, rest => by
    rw [quotedBody_cons, List.append_assoc, literalBody?_quotedChar,
      literalBody?_quotedBody cs rest]
    rfl

/-- **A quoted text ends at its own quote.** Whatever follows it is left untouched. -/
theorem literal?_quoted (cs rest : List Char) :
    literal? (quoted cs ++ rest) = some (quotedBody cs, rest) := by
  rw [quoted_eq, List.cons_append, List.append_assoc]
  exact literalBody?_quotedBody cs rest

/-! ### What a quoted text stands for -/

theorem decoded_of_ne {c : Char} (hc : c ≠ '\\') (cs : List Char) :
    decoded (c :: cs) = behind c (decoded cs) := by
  rw [decoded] <;> simp [hc]

theorem decoded_digits {a b c : Char} (h : byteChar? [a, b] = some c) (cs : List Char) :
    decoded ('\\' :: 'x' :: a :: b :: cs) = behind c (decoded cs) := by
  rw [decoded, h]

theorem decoded_short {e c : Char} (he : e ≠ 'x') (h : shortEscape? e = some c)
    (cs : List Char) : decoded ('\\' :: e :: cs) = behind c (decoded cs) := by
  rw [decoded] <;> simp [h, he]

theorem decoded_quotedChar (c : Char) (cs : List Char) :
    decoded (quotedChar c ++ cs) = behind c (decoded cs) := by
  rcases quotedChar_cases c with ⟨e, h, hx, -, he⟩ | ⟨a, b, h, -, -, hd⟩ | ⟨h, hc⟩
  · rw [h]
    exact decoded_short hx he cs
  · rw [h]
    exact decoded_digits hd cs
  · rw [h]
    exact decoded_of_ne hc.2.1 cs

/-- **Decoding undoes quoting.** -/
theorem decoded_quotedBody : ∀ cs : List Char, decoded (quotedBody cs) = .ok cs
  | [] => rfl
  | c :: cs => by
    rw [quotedBody_cons, decoded_quotedChar, decoded_quotedBody cs]
    rfl

/-! ### A quoted text stays on its line -/

theorem newline_notMem_quotedChar (c : Char) : '\n' ∉ quotedChar c := by
  rcases quotedChar_cases c with ⟨e, h, -, he, -⟩ | ⟨a, b, h, ha, hb, -⟩ | ⟨h, hc⟩
  · simp [h, he.symm]
  · simp [h, ha.2.2.symm, hb.2.2.symm]
  · simp [h, hc.2.2.symm]

theorem newline_notMem_quoted (cs : List Char) : '\n' ∉ quoted cs := by
  simp [quoted, newline_notMem_quotedChar]

end Artifact
end SchemaMap
