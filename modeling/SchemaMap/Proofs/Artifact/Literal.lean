/-
# A quoted text delimits itself

Quoted texts are looked for with a pattern: a quote, then characters other than quotes and
backslashes and pairs of a backslash and a character that is no line feed, then a quote. The pattern
is told here as a class of bodies (`Artifact.IsBody`), and `Artifact.literal?` finds what it matches
(`Artifact.literal?_eq_some_iff`). A quote in a body follows a backslash and is passed over with it,
so a body ends at one place only, and there is one match at most.

So where a text is quoted, the pattern matches just what was written for it, whatever follows, and
two written texts differ before either ends (`Artifact.quoted_delimits_itself`).

Key definitions: `Artifact.IsBody`, `Artifact.IsControl`.
Key theorems: `Artifact.literal?_eq_some_iff`, `Artifact.not_isControl_of_mem_quoted`,
`Artifact.quoted_cancel`, `Artifact.quoted_delimits_itself`.
-/
import SchemaMap.Proofs.Artifact.Quoting

namespace SchemaMap
namespace Artifact

/-! ### The pattern of a quoted text -/

/-- What may stand between the quotes of a quoted text. -/
inductive IsBody : List Char → Prop where
  | nil : IsBody []
  | plain {c : Char} {body : List Char} : c ≠ '"' → c ≠ '\\' → IsBody body → IsBody (c :: body)
  | escape {c : Char} {body : List Char} : c ≠ '\n' → IsBody body → IsBody ('\\' :: c :: body)

theorem literalBody?_of_isBody {body : List Char} (h : IsBody body) (rest : List Char) :
    literalBody? (body ++ '"' :: rest) = some (body, rest) := by
  induction h with
  | nil => rw [List.nil_append, literalBody?]
  | plain hquote hback _ ih =>
    rw [List.cons_append, literalBody?_of_ne hquote hback, ih]
    rfl
  | escape hc _ ih =>
    rw [List.cons_append, List.cons_append, literalBody?_escape hc, ih]
    rfl

/-- What is found behind the opening quote is a body with its closing quote. -/
theorem isBody_of_literalBody? : ∀ {cs body rest : List Char},
    literalBody? cs = some (body, rest) → IsBody body ∧ cs = body ++ '"' :: rest
  | [], body, rest, h => by cases h
  | c :: cs, body, rest, h => by
    by_cases hquote : c = '"'
    · subst hquote
      rw [literalBody?] at h
      cases h
      exact ⟨.nil, rfl⟩
    by_cases hback : c = '\\'
    · subst hback
      cases cs with
      | nil => cases h
      | cons e cs =>
        by_cases he : e = '\n'
        · simp [literalBody?, he] at h
        · rw [literalBody?_escape he] at h
          obtain ⟨⟨more, _⟩, hmore, heq⟩ := Option.map_eq_some_iff.1 h
          cases heq
          obtain ⟨hbody, rfl⟩ := isBody_of_literalBody? hmore
          exact ⟨.escape he hbody, rfl⟩
    · rw [literalBody?_of_ne hquote hback] at h
      obtain ⟨⟨more, _⟩, hmore, heq⟩ := Option.map_eq_some_iff.1 h
      cases heq
      obtain ⟨hbody, rfl⟩ := isBody_of_literalBody? hmore
      exact ⟨.plain hquote hback hbody, rfl⟩

/-- **The reader matches the pattern.** -/
theorem literal?_eq_some_iff {cs body rest : List Char} :
    literal? cs = some (body, rest) ↔ IsBody body ∧ cs = '"' :: (body ++ '"' :: rest) := by
  constructor
  · intro h
    cases cs with
    | nil => cases h
    | cons c cs =>
      by_cases hquote : c = '"'
      · subst hquote
        obtain ⟨hbody, rfl⟩ := isBody_of_literalBody? h
        exact ⟨hbody, rfl⟩
      · rw [literal?] at h <;> simp_all
  · rintro ⟨hbody, rfl⟩
    exact literalBody?_of_isBody hbody rest

/-! ### Control characters -/

/-- The characters that no quoted text holds: those below the blank, and the delete character. -/
def IsControl (c : Char) : Prop :=
  c.toNat < 0x20 ∨ c.toNat = 0x7f

instance (c : Char) : Decidable (IsControl c) :=
  inferInstanceAs (Decidable (_ ∨ _))

theorem not_isControl_digitChar : ∀ n < 16, ¬IsControl (Nat.digitChar n) := by
  decide

theorem not_isControl_of_mem_quotedChar {c d : Char} (h : d ∈ quotedChar c) : ¬IsControl d := by
  have hback : ¬IsControl '\\' := by decide
  have hpair {e : Char} (he : ¬IsControl e) (hd : d ∈ ['\\', e]) : ¬IsControl d := by
    simp only [List.mem_cons, List.not_mem_nil, or_false] at hd
    rcases hd with rfl | rfl
    · exact hback
    · exact he
  unfold quotedChar at h
  split_ifs at h with _ _ _ _ _ hcontrol
  · exact hpair (by decide) h
  · exact hpair hback h
  · exact hpair (by decide) h
  · exact hpair (by decide) h
  · exact hpair (by decide) h
  · obtain ⟨hdigits, -⟩ := hexPadded_two c.toNat (by omega)
    simp only [hdigits, List.mem_cons, List.not_mem_nil, or_false] at h
    rcases h with rfl | rfl | rfl | rfl
    · exact hback
    · decide
    · exact not_isControl_digitChar _ (by omega)
    · exact not_isControl_digitChar _ (by omega)
  · obtain rfl : d = c := List.mem_singleton.1 h
    exact hcontrol

theorem not_isControl_of_mem_quoted {cs : List Char} {d : Char} (h : d ∈ quoted cs) :
    ¬IsControl d := by
  simp only [quoted, List.mem_cons, List.mem_append, List.mem_flatMap, List.not_mem_nil,
    or_false] at h
  rcases h with rfl | ⟨c, -, hd⟩ | rfl
  · decide
  · exact not_isControl_of_mem_quotedChar hd
  · decide

/-! ### The end of a quoted text -/

/-- A quoted text is told from what follows it, and so is the text that was quoted. -/
theorem quoted_cancel {cs cs' rest rest' : List Char}
    (h : quoted cs ++ rest = quoted cs' ++ rest') : cs = cs' ∧ rest = rest' := by
  have hfound := literal?_quoted cs rest
  rw [h, literal?_quoted] at hfound
  obtain ⟨hbody, hrest⟩ := Prod.mk.inj (Option.some.inj hfound)
  have hread := decoded_quotedBody cs
  rw [← hbody, decoded_quotedBody] at hread
  exact ⟨(Except.ok.inj hread).symm, hrest.symm⟩

/-- **A quoted text delimits itself.** At its front, whatever follows, the pattern matches the whole
of it and nothing else, which is what the reader finds; its body is decoded to the text that was
quoted. It holds no control character. And with what follows it, it tells the text that was
quoted. -/
theorem quoted_delimits_itself (cs : List Char) :
    (∀ rest : List Char, literal? (quoted cs ++ rest) = some (quotedBody cs, rest) ∧
      ∀ body behind : List Char,
        IsBody body ∧ quoted cs ++ rest = '"' :: (body ++ '"' :: behind) ↔
          '"' :: (body ++ ['"']) = quoted cs ∧ decoded body = .ok cs ∧ behind = rest) ∧
    (∀ c ∈ quoted cs, ¬IsControl c) ∧
    (∀ cs' rest rest' : List Char, quoted cs ++ rest = quoted cs' ++ rest' →
      cs = cs' ∧ rest = rest') := by
  refine ⟨fun rest => ⟨literal?_quoted cs rest, fun body behind => ?_⟩,
    fun c => not_isControl_of_mem_quoted, fun cs' rest rest' => quoted_cancel⟩
  rw [← literal?_eq_some_iff, literal?_quoted, Option.some.injEq, Prod.mk.injEq]
  constructor
  · rintro ⟨rfl, rfl⟩
    exact ⟨rfl, decoded_quotedBody cs, rfl⟩
  · rintro ⟨hquoted, -, rfl⟩
    have hbody : body ++ ['"'] = quotedBody cs ++ ['"'] := (List.cons.inj hquoted).2
    exact ⟨(List.append_cancel_right hbody).symm, rfl⟩

end Artifact
end SchemaMap
