/-
# The lines of texts put together

A text is cut at its line feeds, so behind whole lines, each with its line feed, the lines of
what follows are counted as if it stood alone. Lines that hold no line feed are given back when
each of them is ended by one, up to a carriage return at their end.

Key definitions: `Text.WholeLines`, `Text.unlines`.
Key theorems: `Text.splitOn_append`, `Text.trim_dropReturn`, `Text.lines_append`,
`Text.lines_line`, `Text.lines_unlines_append`, `Text.newline_notMem_lines`, `Text.unlines_lines`.
-/
import SchemaMap.Proofs.Text.Basic
import SchemaMap.Proofs.Text.Class

namespace SchemaMap
namespace Text

/-! ### Cutting at a character -/

theorem splitOn_ne_nil (sep : Char) : ∀ cs : List Char, splitOn sep cs ≠ []
  | [] => List.cons_ne_nil _ _
  | c :: cs => by
    obtain ⟨part, parts, hp⟩ := List.exists_cons_of_ne_nil (splitOn_ne_nil sep cs)
    rw [splitOn, hp]
    by_cases hc : c = sep <;> simp [hc]

/-- A separator between two texts cuts them apart, and each is cut on its own. -/
theorem splitOn_append (sep : Char) (b : List Char) :
    ∀ a : List Char, splitOn sep (a ++ sep :: b) = splitOn sep a ++ splitOn sep b
  | [] => by
    obtain ⟨part, parts, hp⟩ := List.exists_cons_of_ne_nil (splitOn_ne_nil sep b)
    simp [splitOn, hp]
  | c :: a => by
    have ih := splitOn_append sep b a
    obtain ⟨part, parts, hp⟩ := List.exists_cons_of_ne_nil (splitOn_ne_nil sep a)
    rw [hp, List.cons_append] at ih
    rw [List.cons_append, splitOn, splitOn, ih, hp]
    by_cases hc : c = sep <;> simp [hc]

theorem splitOn_of_notMem {sep : Char} : ∀ {cs : List Char}, sep ∉ cs → splitOn sep cs = [cs]
  | [], _ => rfl
  | c :: cs, h => by
    rw [List.mem_cons, not_or] at h
    have hc : ¬c = sep := fun he => h.1 he.symm
    simp [splitOn, splitOn_of_notMem h.2, hc]

/-- What stands between separators stands in the text. -/
theorem subset_of_mem_splitOn {sep : Char} : ∀ {cs part : List Char},
    part ∈ splitOn sep cs → part ⊆ cs
  | [], part, h => by
    obtain rfl : part = [] := List.mem_singleton.1 h
    exact List.nil_subset []
  | c :: cs, part, h => by
    have ih {p : List Char} (hp : p ∈ splitOn sep cs) : p ⊆ cs := subset_of_mem_splitOn hp
    obtain ⟨first, more, hsplit⟩ := List.exists_cons_of_ne_nil (splitOn_ne_nil sep cs)
    rw [splitOn, hsplit] at h
    rw [hsplit] at ih
    by_cases hc : c = sep
    · simp only [if_pos hc] at h
      rcases List.mem_cons.1 h with rfl | h
      · exact List.nil_subset _
      · exact List.subset_cons_of_subset c (ih h)
    · simp only [if_neg hc] at h
      rcases List.mem_cons.1 h with rfl | h
      · exact List.cons_subset_cons c (ih List.mem_cons_self)
      · exact List.subset_cons_of_subset c (ih (List.mem_cons_of_mem first h))

/-- What stands between separators holds none. -/
theorem notMem_of_mem_splitOn {sep : Char} : ∀ {cs part : List Char},
    part ∈ splitOn sep cs → sep ∉ part
  | [], part, h => by
    obtain rfl : part = [] := List.mem_singleton.1 h
    exact List.not_mem_nil
  | c :: cs, part, h => by
    have ih {p : List Char} (hp : p ∈ splitOn sep cs) : sep ∉ p := notMem_of_mem_splitOn hp
    obtain ⟨first, more, hsplit⟩ := List.exists_cons_of_ne_nil (splitOn_ne_nil sep cs)
    rw [splitOn, hsplit] at h
    rw [hsplit] at ih
    by_cases hc : c = sep
    · simp only [if_pos hc] at h
      rcases List.mem_cons.1 h with rfl | h
      · exact List.not_mem_nil
      · exact ih h
    · simp only [if_neg hc] at h
      rcases List.mem_cons.1 h with rfl | h
      · exact fun hmem => (List.mem_cons.1 hmem).elim (fun he => hc he.symm)
          (ih List.mem_cons_self)
      · exact ih (List.mem_cons_of_mem first h)

theorem splitOn_eq_concat (sep : Char) (cs : List Char) :
    splitOn sep cs = (splitOn sep cs).dropLast ++ [(splitOn sep cs).getLastD []] := by
  have hne := splitOn_ne_nil sep cs
  rw [List.getLastD_eq_getLast?, List.getLast?_eq_some_getLast hne, Option.getD_some,
    List.dropLast_concat_getLast]

/-! ### Carriage returns -/

theorem dropReturn_cons {c : Char} {cs : List Char} (h : c = '\r' → cs ≠ []) :
    dropReturn (c :: cs) = c :: dropReturn cs := by
  rw [dropReturn]
  rintro rfl
  exact h rfl

/-- A text that ends with another character loses nothing. -/
theorem dropReturn_concat {c : Char} (h : c ≠ '\r') :
    ∀ cs : List Char, dropReturn (cs ++ [c]) = cs ++ [c]
  | [] => dropReturn_cons fun he => absurd he h
  | d :: cs => by
    have hne : cs ++ [c] ≠ [] := List.append_ne_nil_of_right_ne_nil _ (List.cons_ne_nil c [])
    rw [List.cons_append, dropReturn_cons fun _ => hne, dropReturn_concat h cs]

/-- What is dropped is white space. -/
theorem exists_dropReturn_append : ∀ cs : List Char,
    ∃ gap, cs = dropReturn cs ++ gap ∧ ∀ c ∈ gap, isBlank c = true
  | [] => ⟨[], rfl, List.forall_mem_nil _⟩
  | c :: cs => by
    by_cases hend : c = '\r' ∧ cs = []
    · obtain ⟨rfl, rfl⟩ := hend
      exact ⟨['\r'], rfl, forall_mem_of_all (by decide)⟩
    · obtain ⟨gap, hcs, hgap⟩ := exists_dropReturn_append cs
      refine ⟨gap, ?_, hgap⟩
      rw [dropReturn_cons fun hc hnil => hend ⟨hc, hnil⟩, List.cons_append, ← hcs]

theorem trim_dropReturn (cs : List Char) : trim (dropReturn cs) = trim cs := by
  obtain ⟨gap, hcs, hgap⟩ := exists_dropReturn_append cs
  calc trim (dropReturn cs)
      = trim (dropReturn cs ++ gap) := (trim_append_blank _ hgap).symm
    _ = trim cs := by rw [← hcs]

theorem isBlankText_dropReturn (cs : List Char) : isBlankText (dropReturn cs) = isBlankText cs := by
  obtain ⟨gap, hcs, hgap⟩ := exists_dropReturn_append cs
  have hblank : isBlankText gap = true := List.all_eq_true.2 hgap
  calc isBlankText (dropReturn cs)
      = (isBlankText (dropReturn cs) && isBlankText gap) := by rw [hblank, Bool.and_true]
    _ = isBlankText (dropReturn cs ++ gap) := List.all_append.symm
    _ = isBlankText cs := by rw [← hcs]

theorem words_dropReturn (cs : List Char) : words (dropReturn cs) = words cs := by
  obtain ⟨gap, hcs, hgap⟩ := exists_dropReturn_append cs
  calc words (dropReturn cs)
      = words (dropReturn cs ++ gap) := (runs_append_of_pos hgap _).symm
    _ = words cs := by rw [← hcs]

theorem dropReturn_of_not_suffix {cs : List Char} (h : ¬['\r'] <:+ cs) : dropReturn cs = cs := by
  rcases List.eq_nil_or_concat cs with rfl | ⟨front, c, rfl⟩
  · rfl
  · rw [List.concat_eq_append] at h ⊢
    have hc : c ≠ '\r' := fun hc => h ⟨front, by rw [hc]⟩
    exact dropReturn_concat hc front

theorem dropReturn_subset (cs : List Char) : dropReturn cs ⊆ cs := by
  obtain ⟨gap, hcs, -⟩ := exists_dropReturn_append cs
  exact fun c hc => hcs ▸ List.mem_append_left gap hc

/-! ### Lines -/

theorem ended_append {rest : List (List Char)} (hr : rest ≠ []) :
    ∀ parts : List (List Char),
      lines.ended (parts ++ rest) = parts.map dropReturn ++ lines.ended rest
  | [] => rfl
  | part :: parts => by
    have hne : parts ++ rest ≠ [] := List.append_ne_nil_of_right_ne_nil _ hr
    rw [List.cons_append, lines.ended, ended_append hr parts]
    · rfl
    · exact hne

theorem lines_append_newline (a b : List Char) :
    lines (a ++ '\n' :: b) = (splitOn '\n' a).map dropReturn ++ lines b := by
  rw [lines, splitOn_append, ended_append (splitOn_ne_nil _ _), ← lines]

/-- A text of whole lines: it is empty or ends with a line feed. -/
def WholeLines (cs : List Char) : Prop :=
  cs = [] ∨ cs.getLast? = some '\n'

/-- Behind whole lines, the lines of a text are those it has by itself. -/
theorem lines_append {a : List Char} (h : WholeLines a) (b : List Char) :
    lines (a ++ b) = lines a ++ lines b := by
  rcases h with rfl | h
  · rfl
  · obtain ⟨front, rfl⟩ := List.getLast?_eq_some_iff.1 h
    have hnil : lines [] = [] := rfl
    have hfront : lines (front ++ ['\n']) = (splitOn '\n' front).map dropReturn := by
      rw [lines_append_newline, hnil, List.append_nil]
    rw [List.append_assoc, List.singleton_append, lines_append_newline, hfront]

/-- A text without line feeds is the first line of what its line feed ends. -/
theorem lines_line {l : List Char} (h : '\n' ∉ l) (rest : List Char) :
    lines (l ++ '\n' :: rest) = dropReturn l :: lines rest := by
  rw [lines_append_newline, splitOn_of_notMem h]
  rfl

/-- Lines in one text, each ended by a line feed. -/
def unlines (ls : List (List Char)) : List Char :=
  ls.flatMap fun l => l ++ ['\n']

@[simp] theorem unlines_nil : unlines [] = [] := rfl

@[simp] theorem unlines_cons (l : List Char) (ls : List (List Char)) :
    unlines (l :: ls) = l ++ '\n' :: unlines ls := by
  simp [unlines]

@[simp] theorem unlines_append (ls ms : List (List Char)) :
    unlines (ls ++ ms) = unlines ls ++ unlines ms := by
  simp [unlines]

theorem isBlankText_unlines (ls : List (List Char)) :
    isBlankText (unlines ls) = ls.all isBlankText := by
  have hfeed : isBlank '\n' = true := by decide
  induction ls with
  | nil => rfl
  | cons l ls ih =>
    rw [isBlankText] at ih
    rw [isBlankText, unlines_cons, List.all_append, List.all_cons, hfeed, Bool.true_and, ih]
    rfl

/-- Lines in one text are the lines in front of what follows. -/
theorem lines_unlines_append (rest : List Char) : ∀ {ls : List (List Char)},
    (∀ l ∈ ls, '\n' ∉ l) → lines (unlines ls ++ rest) = ls.map dropReturn ++ lines rest
  | [], _ => rfl
  | l :: ls, h => by
    have hl : '\n' ∉ l := h l List.mem_cons_self
    have ih := lines_unlines_append rest fun m hm => h m (List.mem_cons_of_mem l hm)
    rw [unlines_cons, List.append_assoc, List.cons_append, lines_line hl, ih]
    rfl

theorem lines_unlines {ls : List (List Char)} (h : ∀ l ∈ ls, '\n' ∉ l) :
    lines (unlines ls) = ls.map dropReturn := by
  have hlines := lines_unlines_append [] h
  rwa [List.append_nil, show lines [] = [] from rfl, List.append_nil] at hlines

/-! ### The lines of a text -/

/-- What holds of every last line, and of a first line in front of what it holds of, holds of every
text. -/
theorem line_induction {P : List Char → Prop} (last : ∀ l, '\n' ∉ l → P l)
    (line : ∀ l rest, '\n' ∉ l → P rest → P (l ++ '\n' :: rest)) (cs : List Char) : P cs := by
  have hbehind : ∀ (cs front : List Char), '\n' ∉ front → P (front ++ cs) := by
    intro cs
    induction cs with
    | nil =>
      intro front hfront
      rw [List.append_nil]
      exact last front hfront
    | cons c cs ih =>
      intro front hfront
      by_cases hc : c = '\n'
      · subst hc
        exact line front cs hfront (ih [] List.not_mem_nil)
      · have hnext := ih (front ++ [c]) (by simp [hfront, Ne.symm hc])
        rwa [List.append_assoc, List.singleton_append] at hnext
  exact hbehind cs [] List.not_mem_nil

theorem lines_of_notMem {l : List Char} (h : '\n' ∉ l) :
    lines l = if l.isEmpty then [] else [l] := by
  rw [lines, splitOn_of_notMem h, lines.ended]

theorem newline_notMem_lines (cs : List Char) : ∀ l ∈ lines cs, '\n' ∉ l := by
  induction cs using line_induction with
  | last l hl =>
    rw [lines_of_notMem hl]
    split
    · exact List.forall_mem_nil _
    · exact List.forall_mem_singleton.2 hl
  | line l rest hl ih =>
    rw [lines_line hl]
    exact List.forall_mem_cons.2 ⟨fun hm => hl (dropReturn_subset l hm), ih⟩

/-- Where all lines are blank, the text is. -/
theorem isBlankText_of_lines {cs : List Char} :
    (∀ l ∈ lines cs, isBlankText l = true) → isBlankText cs = true := by
  induction cs using line_induction with
  | last l hl =>
    intro h
    rw [lines_of_notMem hl] at h
    cases l with
    | nil => rfl
    | cons c l => exact h _ List.mem_cons_self
  | line l rest hl ih =>
    intro h
    rw [lines_line hl] at h
    obtain ⟨hfirst, hrest⟩ := List.forall_mem_cons.1 h
    rw [isBlankText_dropReturn, isBlankText] at hfirst
    have htail := ih hrest
    rw [isBlankText] at htail ⊢
    rw [List.all_append, List.all_cons, hfirst, htail]
    rfl

/-- Without carriage returns in front of line feeds, a text is its lines again, with a line feed
behind the last one. -/
theorem unlines_lines {cs : List Char} :
    ¬['\r', '\n'] <:+: cs → ∃ feed, unlines (lines cs) = cs ++ feed := by
  induction cs using line_induction with
  | last l hl =>
    intro _
    rw [lines_of_notMem hl]
    cases l with
    | nil => exact ⟨[], rfl⟩
    | cons c l => exact ⟨['\n'], by simp⟩
  | line l rest hl ih =>
    intro h
    have hrest : ¬['\r', '\n'] <:+: rest := fun hi =>
      h (hi.trans ((List.suffix_cons '\n' rest).trans (List.suffix_append l _)).isInfix)
    have hreturn : ¬['\r'] <:+ l := by
      rintro ⟨front, rfl⟩
      exact h ⟨front, rest, by simp⟩
    obtain ⟨feed, hfeed⟩ := ih hrest
    refine ⟨feed, ?_⟩
    rw [lines_line hl, dropReturn_of_not_suffix hreturn, unlines_cons, hfeed, List.append_assoc,
      List.cons_append]

end Text
end SchemaMap
