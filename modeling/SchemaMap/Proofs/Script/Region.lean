/-
# How the regions of a text are read

The reader of regions looks at most one character ahead in code, so a text that closes what it
opens, and does not end in front of a character that could join it, is given the same regions
wherever it stands in code: `Scans t g` says so, and is built up from calm characters and
quotations. A doubled mark closes a quotation and opens the next one, which leaves no character
between them in code.

Key definitions: `Script.IsCalm`, `Script.startsComment`, `Script.Scans`.
Key theorems: `Script.chars_mark`, `Script.opened_comment_iff`, `Script.Scans.append`,
`Script.scans_code`, `Script.scans_dash`, `Script.scans_quotation`, `Script.scans_bracketed`,
`Script.Scans.tagged_eq`, `Script.Scans.withoutComments_eq`.
-/
import SchemaMap.Script.Region
import SchemaMap.Proofs.Text.Basic
import SchemaMap.Proofs.Text.Class

namespace SchemaMap
namespace Script

open Text (quotation doubled)

/-! ### Single steps -/

/-- The characters that a quotation or a comment may start with. -/
def openers : List Char :=
  ['-', '/', '\'', '"', '`', '[', '$']

/-- A character that opens neither a quotation nor a comment, whatever follows it. -/
def IsCalm (c : Char) : Prop :=
  c ∉ openers

instance (c : Char) : Decidable (IsCalm c) := inferInstanceAs (Decidable (_ ∉ _))

theorem isCalm_of_class {p : Char → Bool} (hp : openers.any p = false) {c : Char}
    (h : p c = true) : IsCalm c :=
  fun hm => List.any_eq_false.1 hp c hm h

theorem isCalm_of_isBlank {c : Char} (h : Text.isBlank c = true) : IsCalm c :=
  isCalm_of_class (by decide) h

/-- Whether a text in code starts with a comment. -/
def startsComment : List Char → Bool
  | '-' :: '-' :: _ => true
  | '/' :: '*' :: _ => true
  | _ => false

theorem chars_mark : ∀ (m : Mark) (cs : List Char), chars (mark m cs) = cs
  | _, [] => rfl
  | m, c :: cs => congrArg (c :: ·) (chars_mark (step m c cs).2 cs)

theorem opened_of_isCalm {c : Char} (h : IsCalm c) (p : Option Char) (rest : List Char) :
    opened p c rest = (.code, .code (some c)) := by
  unfold opened
  split <;> first | rfl | exact absurd (by decide) h

/-- A dash that no dash follows is code. -/
theorem opened_dash {c : Char} (h : c ≠ '-') (p : Option Char) (rest : List Char) :
    opened p '-' (c :: rest) = (.code, .code (some '-')) := by
  unfold opened
  split <;> simp_all

theorem opened_comment_iff (p : Option Char) (c : Char) (rest : List Char) :
    (opened p c rest).1 = .comment ↔ startsComment (c :: rest) = true := by
  unfold opened
  split <;> try simp [startsComment]
  · split <;> simp
  · simp_all

theorem mark_isCalm {c : Char} (h : IsCalm c) (p : Option Char) (cs : List Char) :
    mark (.code p) (c :: cs) = (c, .code) :: mark (.code (some c)) cs := by
  rw [mark, step, opened_of_isCalm h]

/-! ### Texts that are read alike everywhere -/

/-- Wherever the text `t` stands in code, its characters have the regions `g`, and what follows
it is read from code. -/
def Scans (t : List Char) (g : Tagged) : Prop :=
  ∀ p rest, ∃ p', mark (.code p) (t ++ rest) = g ++ mark (.code p') rest

/-- A text all of one region. -/
def allIn (region : Region) (t : List Char) : Tagged :=
  t.map fun c => (c, region)

theorem scans_nil : Scans [] [] :=
  fun p _ => ⟨p, rfl⟩

theorem Scans.append {t u : List Char} {g k : Tagged} (ht : Scans t g) (hu : Scans u k) :
    Scans (t ++ u) (g ++ k) := by
  intro p rest
  obtain ⟨p', hp'⟩ := ht p (u ++ rest)
  obtain ⟨p'', hp''⟩ := hu p' rest
  refine ⟨p'', ?_⟩
  calc mark (.code p) (t ++ u ++ rest)
      = g ++ mark (.code p') (u ++ rest) := by rw [List.append_assoc, hp']
    _ = g ++ (k ++ mark (.code p'') rest) := by rw [hp'']
    _ = g ++ k ++ mark (.code p'') rest := (List.append_assoc _ _ _).symm

/-- Calm characters are code. -/
theorem scans_code : ∀ {t : List Char}, (∀ c ∈ t, IsCalm c) → Scans t (allIn .code t)
  | [], _ => scans_nil
  | c :: t, h => by
    intro p rest
    obtain ⟨p', hp'⟩ := scans_code (fun d hd => h d (List.mem_cons_of_mem c hd)) (some c) rest
    exact ⟨p', by rw [List.cons_append, mark_isCalm (h c List.mem_cons_self), hp']; rfl⟩

/-- A dash in front of calm characters is code. -/
theorem scans_dash {t : List Char} (hne : t ≠ []) (h : ∀ c ∈ t, IsCalm c) :
    Scans ('-' :: t) (allIn .code ('-' :: t)) := by
  intro p rest
  obtain ⟨c, t, rfl⟩ := List.exists_cons_of_ne_nil hne
  have hc : c ≠ '-' := fun he => h c List.mem_cons_self (by rw [he]; decide)
  obtain ⟨p', hp'⟩ := scans_code h (some '-') rest
  refine ⟨p', ?_⟩
  rw [List.cons_append, mark, step, List.cons_append, opened_dash hc, ← List.cons_append, hp']
  rfl

/-! ### Quotations -/

/-- A mark that is closed by itself. -/
def IsQuote (q : Char) : Prop :=
  q = '"' ∨ q = '`' ∨ q = '\''

theorem opened_quote {q : Char} (hq : IsQuote q) (p : Option Char) (rest : List Char) :
    opened p q rest = (.quoted, .inside .quoted 0 [q]) := by
  rcases hq with rfl | rfl | rfl <;> rfl

theorem step_inside_quote (q : Char) (rest : List Char) :
    step (.inside .quoted 0 [q]) q rest = (.quoted, .code (some q)) := by
  simp [step, Text.after?]

theorem step_inside_other {q c : Char} (h : c ≠ q) (rest : List Char) :
    step (.inside .quoted 0 [q]) c rest = (.quoted, .inside .quoted 0 [q]) := by
  simp [step, Text.after?, h.symm]

/-- Behind an opening mark, everything up to the closing one is quoted: a doubled mark leaves
the quotation and opens it again. -/
theorem mark_doubled {q : Char} (hq : IsQuote q) (rest : List Char) : ∀ s : List Char,
    mark (.inside .quoted 0 [q]) (doubled q s ++ q :: rest) =
      allIn .quoted (doubled q s ++ [q]) ++ mark (.code (some q)) rest
  | [] => by
    simp only [doubled, List.flatMap_nil, List.nil_append]
    rw [mark, step_inside_quote]
    rfl
  | c :: s => by
    have ih := mark_doubled hq rest s
    by_cases hc : c = q
    · subst hc
      have hd : doubled c (c :: s) = c :: c :: doubled c s := by simp [doubled]
      rw [hd, List.cons_append, List.cons_append, mark, step_inside_quote, mark, step,
        opened_quote hq, ih]
      rfl
    · have hd : doubled q (c :: s) = c :: doubled q s := by simp [doubled, hc]
      rw [hd, List.cons_append, mark, step_inside_other hc, ih]
      rfl

/-- **A quotation is quoted from its first mark to its last, whatever it holds.** -/
theorem scans_quotation {q : Char} (hq : IsQuote q) (s : List Char) :
    Scans (quotation q s) (allIn .quoted (quotation q s)) := by
  intro p rest
  refine ⟨some q, ?_⟩
  unfold quotation
  rw [List.cons_append, mark, step, opened_quote hq, List.append_assoc, List.singleton_append,
    mark_doubled hq rest s]
  rfl

/-! ### Square brackets -/

/-- Behind an opening bracket, everything up to the first closing one is quoted. -/
theorem mark_bracketed (rest : List Char) : ∀ {s : List Char}, ']' ∉ s →
    mark (.inside .quoted 0 [']']) (s ++ ']' :: rest) =
      allIn .quoted (s ++ [']']) ++ mark (.code (some ']')) rest
  | [], _ => by
    rw [List.nil_append, mark, step_inside_quote]
    rfl
  | c :: s, h => by
    rw [List.mem_cons, not_or] at h
    have hc : c ≠ ']' := fun he => h.1 he.symm
    rw [List.cons_append, mark, step_inside_other hc, mark_bracketed rest h.2]
    rfl

/-- A text between square brackets is quoted, if it holds no closing one. -/
theorem scans_bracketed {s : List Char} (h : ']' ∉ s) :
    Scans ('[' :: (s ++ [']'])) (allIn .quoted ('[' :: (s ++ [']']))) := by
  intro p rest
  refine ⟨some ']', ?_⟩
  have hopen : step (.code p) '[' (s ++ [']'] ++ rest) = (.quoted, .inside .quoted 0 [']']) := rfl
  rw [List.cons_append, mark, hopen, List.append_assoc, List.singleton_append,
    mark_bracketed rest h]
  rfl

/-! ### Whole texts -/

theorem Scans.tagged_eq {t : List Char} {g : Tagged} (h : Scans t g) : tagged t = g := by
  obtain ⟨p', hp'⟩ := h none []
  simpa [tagged, mark] using hp'

theorem Scans.chars_eq {t : List Char} {g : Tagged} (h : Scans t g) : chars g = t := by
  rw [← h.tagged_eq, tagged, chars_mark]

/-- A text without comments stays as it is. -/
theorem Scans.withoutComments_eq {t : List Char} {g : Tagged} (h : Scans t g)
    (hg : ∀ x ∈ g, x.2 ≠ .comment) : withoutComments t = t := by
  unfold withoutComments
  rw [h.tagged_eq, ← h.chars_eq]
  refine List.map_congr_left fun x hx => ?_
  simp [blanked, hg x hx]

end Script
end SchemaMap
