/-
# Trimmed and doubled texts

A text whose two ends are not white space is its own trim, with any white space around it. A
text in which every occurrence of a mark is doubled is given back by `Text.undouble`; between
two marks it is the way in which names and strings are quoted.

Key definitions: `Text.IsTrimmed`, `Text.doubled`, `Text.quotation`.
Key theorems: `Text.IsTrimmed.trim_append`, `Text.IsTrimmed.trim_between`,
`Text.exists_trim_append`, `Text.undouble_doubled`.
-/
import SchemaMap.Text.Basic
import Mathlib.Data.List.TakeWhile

namespace SchemaMap
namespace Text

/-! ### Trimmed texts -/

/-- A text that is not empty and has no white space at its two ends. -/
structure IsTrimmed (cs : List Char) : Prop where
  first : ∃ c rest, cs = c :: rest ∧ isBlank c = false
  last : ∃ rest c, cs = rest ++ [c] ∧ isBlank c = false

theorem IsTrimmed.ne_nil {cs : List Char} (h : IsTrimmed cs) : cs ≠ [] := by
  obtain ⟨c, rest, rfl, -⟩ := h.first
  exact List.cons_ne_nil _ _

/-- The two ends decide. -/
theorem isTrimmed_of_ends {cs : List Char} (hfirst : cs.head?.any (fun c => !isBlank c) = true)
    (hlast : cs.getLast?.any (fun c => !isBlank c) = true) : IsTrimmed cs := by
  obtain ⟨c, hc, hcblank⟩ := (Option.any_eq_true _ _).1 hfirst
  obtain ⟨d, hd, hdblank⟩ := (Option.any_eq_true _ _).1 hlast
  obtain ⟨rest, hrest⟩ := List.head?_eq_some_iff.1 hc
  obtain ⟨front, hfront⟩ := List.getLast?_eq_some_iff.1 hd
  exact ⟨⟨c, rest, hrest, by simpa using hcblank⟩, ⟨front, d, hfront, by simpa using hdblank⟩⟩

/-- What stands between two trimmed texts is not looked at. -/
theorem IsTrimmed.append_between {a b : List Char} (ha : IsTrimmed a) (hb : IsTrimmed b)
    (cs : List Char) : IsTrimmed (a ++ cs ++ b) := by
  obtain ⟨c, rest, rfl, hc⟩ := ha.first
  obtain ⟨front, d, rfl, hd⟩ := hb.last
  exact ⟨⟨c, rest ++ cs ++ (front ++ [d]), by simp, hc⟩,
    ⟨c :: rest ++ cs ++ front, d, by simp, hd⟩⟩

/-- A text without any white space, if it is not empty. -/
theorem isTrimmed_of_forall {cs : List Char} (hne : cs ≠ [])
    (h : ∀ c ∈ cs, isBlank c = false) : IsTrimmed cs := by
  constructor
  · obtain ⟨c, rest, rfl⟩ := List.exists_cons_of_ne_nil hne
    exact ⟨c, rest, rfl, h c List.mem_cons_self⟩
  · refine ⟨cs.dropLast, cs.getLast hne, (List.dropLast_concat_getLast hne).symm, ?_⟩
    exact h _ (List.getLast_mem hne)

/-- Nothing is dropped up to a character of another class. -/
theorem dropEndWhile_append_of_neg {p : Char → Bool} {c : Char} (h : p c = false)
    (rest : List Char) : ∀ cs : List Char,
      dropEndWhile p (cs ++ c :: rest) = cs ++ c :: dropEndWhile p rest
  | [] => by
    rw [List.nil_append, List.nil_append, dropEndWhile]
    cases dropEndWhile p rest <;> simp [h]
  | d :: cs => by
    rw [List.cons_append, dropEndWhile, dropEndWhile_append_of_neg h rest cs]
    cases cs <;> rfl

theorem dropEndWhile_eq_nil {p : Char → Bool} :
    ∀ {gap : List Char}, (∀ c ∈ gap, p c = true) → dropEndWhile p gap = []
  | [], _ => rfl
  | c :: gap, h => by
    rw [dropEndWhile, dropEndWhile_eq_nil fun d hd => h d (List.mem_cons_of_mem c hd)]
    simp [h c List.mem_cons_self]

theorem dropEndWhile_append_of_pos {p : Char → Bool} {gap : List Char}
    (h : ∀ c ∈ gap, p c = true) :
    ∀ cs : List Char, dropEndWhile p (cs ++ gap) = dropEndWhile p cs
  | [] => dropEndWhile_eq_nil h
  | c :: cs => by
    rw [List.cons_append, dropEndWhile, dropEndWhile, dropEndWhile_append_of_pos h cs]

/-- What is dropped at the end is of the class. -/
theorem exists_append_dropEndWhile (p : Char → Bool) : ∀ cs : List Char,
    ∃ gap, cs = dropEndWhile p cs ++ gap ∧ ∀ c ∈ gap, p c = true
  | [] => ⟨[], rfl, by simp⟩
  | c :: cs => by
    obtain ⟨gap, hcs, hgap⟩ := exists_append_dropEndWhile p cs
    rw [dropEndWhile]
    rcases hd : dropEndWhile p cs with _ | ⟨d, ds⟩
    · rw [hd, List.nil_append] at hcs
      subst hcs
      by_cases hc : p c = true
      · exact ⟨c :: cs, by simp [hc], by simpa [hc] using hgap⟩
      · exact ⟨cs, by simp [hc], hgap⟩
    · exact ⟨gap, by simpa [hd] using hcs, hgap⟩

/-- What is left does not end with a character of the class. -/
theorem neg_of_dropEndWhile_eq_concat {p : Char → Bool} {d : Char} : ∀ {cs front : List Char},
    dropEndWhile p cs = front ++ [d] → p d = false
  | [], front, h => absurd h.symm (by simp [dropEndWhile])
  | c :: cs, front, h => by
    rw [dropEndWhile] at h
    rcases hcs : dropEndWhile p cs with _ | ⟨e, es⟩
    · rw [hcs] at h
      by_cases hc : p c = true
      · simp [hc] at h
      · simp only [hc, Bool.false_eq_true, if_false] at h
        rw [← List.nil_append [c]] at h
        obtain rfl : c = d := List.singleton_inj.1 (List.append_inj' h rfl).2
        simpa using hc
    · rw [hcs] at h
      rcases front with _ | ⟨x, front⟩
      · exact absurd (List.cons.inj h).2 (List.cons_ne_nil _ _)
      · exact neg_of_dropEndWhile_eq_concat (hcs.trans (List.cons.inj h).2)

/-- What is left starts as the text did. -/
theorem head?_dropEndWhile {p : Char → Bool} {cs : List Char} {c : Char}
    (h : (dropEndWhile p cs).head? = some c) : cs.head? = some c := by
  obtain ⟨gap, hcs, -⟩ := exists_append_dropEndWhile p cs
  rw [hcs, List.head?_append, h, Option.some_or]

/-- White space in front of a trimmed text is dropped, and that at the end of what follows it. -/
theorem IsTrimmed.trim_append {before cs : List Char} (h : IsTrimmed cs)
    (hb : ∀ c ∈ before, isBlank c = true) (rest : List Char) :
    trim (before ++ cs ++ rest) = cs ++ dropEndWhile isBlank rest := by
  obtain ⟨c, more, hc, hblank⟩ := h.first
  obtain ⟨front, d, hd, hlast⟩ := h.last
  have hdrop : (before ++ cs ++ rest).dropWhile isBlank = cs ++ rest := by
    rw [List.append_assoc, List.dropWhile_append_of_pos hb, hc, List.cons_append,
      List.dropWhile_cons_of_neg (by simp [hblank])]
  calc trim (before ++ cs ++ rest)
      = dropEndWhile isBlank (front ++ d :: rest) := by
        rw [trim, hdrop, hd, List.append_assoc, List.singleton_append]
    _ = front ++ d :: dropEndWhile isBlank rest := dropEndWhile_append_of_neg hlast rest front
    _ = cs ++ dropEndWhile isBlank rest := by rw [hd, List.append_assoc, List.singleton_append]

/-- The white space around a trimmed text is dropped, and nothing of the text. -/
theorem IsTrimmed.trim_between {before cs behind : List Char} (h : IsTrimmed cs)
    (hb : ∀ c ∈ before, isBlank c = true) (ha : ∀ c ∈ behind, isBlank c = true) :
    trim (before ++ cs ++ behind) = cs := by
  rw [h.trim_append hb, dropEndWhile_eq_nil ha, List.append_nil]

theorem IsTrimmed.trim_behind {cs before : List Char} (h : IsTrimmed cs)
    (hb : ∀ c ∈ before, isBlank c = true) : trim (before ++ cs) = cs := by
  rw [← List.append_nil (before ++ cs)]
  exact h.trim_between hb (List.forall_mem_nil _)

/-- Nothing is left of white space. -/
theorem trim_eq_nil {cs : List Char} (h : ∀ c ∈ cs, isBlank c = true) : trim cs = [] := by
  rw [trim, List.dropWhile_eq_nil_iff.2 h]
  rfl

/-- Nothing is left of white space only. -/
theorem forall_isBlank_of_trim_eq_nil {cs : List Char} (h : trim cs = []) :
    ∀ c ∈ cs, isBlank c = true := by
  obtain ⟨gap, hgap, hblank⟩ := exists_append_dropEndWhile isBlank (cs.dropWhile isBlank)
  rw [← trim, h, List.nil_append] at hgap
  have hdrop := (List.takeWhile_append_dropWhile (p := isBlank) (l := cs)).symm
  rw [hgap] at hdrop
  rw [hdrop]
  exact List.forall_mem_append.2 ⟨fun c hc => List.all_eq_true.1 List.all_takeWhile c hc, hblank⟩

/-- A text that does not start with white space is its trim, with white space behind it. -/
theorem exists_trim_append {c : Char} (hc : isBlank c = false) (cs : List Char) :
    ∃ rest gap, trim (c :: cs) = c :: rest ∧ IsTrimmed (c :: rest) ∧ cs = rest ++ gap ∧
      ∀ d ∈ gap, isBlank d = true := by
  obtain ⟨gap, hgap, hblank⟩ := exists_append_dropEndWhile isBlank (c :: cs)
  have htrim : trim (c :: cs) = dropEndWhile isBlank (c :: cs) := by
    rw [trim, List.dropWhile_cons_of_neg (by simp [hc])]
  rcases hrest : dropEndWhile isBlank (c :: cs) with _ | ⟨d, rest⟩
  · rw [hrest, List.nil_append] at hgap
    exact absurd (hblank c (hgap ▸ List.mem_cons_self)) (by simp [hc])
  · rw [hrest] at hgap
    obtain ⟨rfl, hcs⟩ := List.cons.inj hgap
    refine ⟨rest, gap, htrim.trans hrest, ⟨⟨c, rest, rfl, hc⟩, ?_⟩, hcs, hblank⟩
    have hlast : c :: rest = (c :: rest).dropLast ++ [(c :: rest).getLast (List.cons_ne_nil _ _)] :=
      (List.dropLast_concat_getLast _).symm
    exact ⟨_, _, hlast, neg_of_dropEndWhile_eq_concat (hrest.trans hlast)⟩

/-- White space behind a text is dropped. -/
theorem trim_append_blank (cs : List Char) {gap : List Char} (h : ∀ c ∈ gap, isBlank c = true) :
    trim (cs ++ gap) = trim cs := by
  rw [trim, trim, List.dropWhile_append]
  split
  · rename_i hcs
    rw [List.isEmpty_iff.1 hcs, List.dropWhile_eq_nil_iff.2 h]
  · exact dropEndWhile_append_of_pos h _

theorem IsTrimmed.trim_eq {cs : List Char} (h : IsTrimmed cs) : trim cs = cs :=
  h.trim_behind (List.forall_mem_nil _)

theorem IsTrimmed.trim_before {cs behind : List Char} (h : IsTrimmed cs)
    (ha : ∀ c ∈ behind, isBlank c = true) : trim (cs ++ behind) = cs :=
  h.trim_between (List.forall_mem_nil _) ha

/-! ### Joined texts -/

theorem intercalate_cons (s t : List Char) : ∀ ts : List (List Char),
    s.intercalate (t :: ts) = t ++ ts.flatMap fun u => s ++ u
  | [] => by simp
  | u :: ts => by
    rw [List.intercalate_cons_cons, intercalate_cons s u ts]
    simp

/-- What holds of the empty text, and of two texts together, holds of joined texts. -/
theorem intercalate_closed {P : List Char → Prop} (hnil : P [])
    (happ : ∀ {a b : List Char}, P a → P b → P (a ++ b)) {s : List Char} (hs : P s) :
    ∀ {ts : List (List Char)}, (∀ t ∈ ts, P t) → P (s.intercalate ts)
  | [], _ => hnil
  | [t], h => by
    rw [List.intercalate_singleton]
    exact h t List.mem_cons_self
  | t :: u :: ts, h => by
    rw [List.intercalate_cons_cons]
    exact happ (happ (h t List.mem_cons_self) hs)
      (intercalate_closed hnil happ hs fun v hv => h v (List.mem_cons_of_mem t hv))

theorem isTrimmed_intercalate (s : List Char) : ∀ {ts : List (List Char)}, ts ≠ [] →
    (∀ t ∈ ts, IsTrimmed t) → IsTrimmed (s.intercalate ts)
  | [], hne, _ => absurd rfl hne
  | [t], _, h => by
    rw [List.intercalate_singleton]
    exact h t List.mem_cons_self
  | t :: u :: ts, _, h => by
    rw [List.intercalate_cons_cons]
    have ih := isTrimmed_intercalate s (List.cons_ne_nil u ts) fun v hv =>
      h v (List.mem_cons_of_mem t hv)
    exact (h t List.mem_cons_self).append_between ih s

/-! ### Runs -/

/-- The first run of a text that starts in one. -/
theorem runs_of_head (p : Char → Bool) : ∀ (c : Char) (cs : List Char), p c = false →
    ∃ more, runs p (c :: cs) = (c :: cs.takeWhile (fun c => !p c)) :: more
  | c, [], h => ⟨[], by simp [runs, h]⟩
  | c, d :: cs, h => by
    by_cases hd : p d = true
    · exact ⟨runs p (d :: cs), by rw [runs.eq_def]; simp [h, hd]⟩
    · obtain ⟨more, hm⟩ := runs_of_head p d cs (by simpa using hd)
      refine ⟨more, ?_⟩
      rw [runs.eq_def]
      simp [h, hd, hm]

theorem runs_eq_nil {p : Char → Bool} : ∀ {gap : List Char}, (∀ c ∈ gap, p c = true) →
    runs p gap = []
  | [], _ => rfl
  | c :: gap, h => by
    rw [runs.eq_def]
    simp only [h c List.mem_cons_self, if_true]
    exact runs_eq_nil fun d hd => h d (List.mem_cons_of_mem c hd)

/-- What is of the class at the end belongs to no run. -/
theorem runs_append_of_pos {p : Char → Bool} {gap : List Char} (h : ∀ c ∈ gap, p c = true) :
    ∀ cs : List Char, runs p (cs ++ gap) = runs p cs
  | [] => runs_eq_nil h
  | [c] => by
    cases gap with
    | nil => rfl
    | cons d gap =>
      have hd : p d = true := h d List.mem_cons_self
      have hgap : runs p gap = [] := runs_eq_nil fun e he => h e (List.mem_cons_of_mem d he)
      rw [List.singleton_append, runs.eq_def, runs.eq_def]
      simp [hd, hgap, runs]
  | c :: d :: cs => by
    have ih := runs_append_of_pos h (d :: cs)
    rw [List.cons_append] at ih ⊢
    rw [runs.eq_def, runs.eq_def p (c :: d :: cs)]
    simp only [List.cons_append, ih]

/-! ### Doubled texts -/

/-- A text with every `q` doubled. -/
def doubled (q : Char) (cs : List Char) : List Char :=
  cs.flatMap fun c => if c = q then [q, q] else [c]

/-- A text between two marks `q`, with the marks inside doubled. -/
def quotation (q : Char) (cs : List Char) : List Char :=
  q :: (doubled q cs ++ [q])

theorem undouble_eq_nil {q : Char} : ∀ {cs : List Char}, undouble q cs = [] ↔ cs = []
  | [] => by simp [undouble]
  | [a] => by simp [undouble]
  | a :: b :: cs => by
    rw [undouble]
    split <;> simp

theorem undouble_cons_of_ne {q c : Char} (h : c ≠ q) (cs : List Char) :
    undouble q (c :: cs) = c :: undouble q cs := by
  cases cs with
  | nil => rfl
  | cons d cs => rw [undouble, if_neg fun hd => h hd.1]

@[simp] theorem doubled_nil (q : Char) : doubled q [] = [] := rfl

@[simp] theorem doubled_same (q : Char) (cs : List Char) :
    doubled q (q :: cs) = q :: q :: doubled q cs := by
  simp [doubled]

theorem doubled_cons_of_ne {q c : Char} (h : c ≠ q) (cs : List Char) :
    doubled q (c :: cs) = c :: doubled q cs := by
  simp [doubled, h]

theorem doubled_append (q : Char) (cs ds : List Char) :
    doubled q (cs ++ ds) = doubled q cs ++ doubled q ds :=
  List.flatMap_append

theorem doubled_of_notMem {q : Char} : ∀ {cs : List Char}, q ∉ cs → doubled q cs = cs
  | [], _ => rfl
  | c :: cs, h => by
    rw [List.mem_cons, not_or] at h
    rw [doubled_cons_of_ne (Ne.symm h.1), doubled_of_notMem h.2]

/-- Doubling drops no character. -/
theorem sublist_doubled (q : Char) : ∀ cs : List Char, cs.Sublist (doubled q cs)
  | [] => List.Sublist.refl []
  | c :: cs => by
    have ih := sublist_doubled q cs
    by_cases hc : c = q
    · rw [hc, doubled_same]
      exact (ih.cons q).cons_cons q
    · rw [doubled_cons_of_ne hc]
      exact ih.cons_cons c

theorem length_le_doubled (q : Char) (cs : List Char) : cs.length ≤ (doubled q cs).length :=
  (sublist_doubled q cs).length_le

/-- Doubled marks in front of a text are made single, whatever follows. -/
theorem undouble_doubled_append (q : Char) (rest : List Char) : ∀ cs : List Char,
    undouble q (doubled q cs ++ rest) = cs ++ undouble q rest
  | [] => rfl
  | c :: cs => by
    have ih := undouble_doubled_append q rest cs
    by_cases hc : c = q
    · rw [hc, doubled_same, List.cons_append, List.cons_append, undouble, if_pos ⟨rfl, rfl⟩, ih,
        List.cons_append]
    · rw [doubled_cons_of_ne hc, List.cons_append, undouble_cons_of_ne hc, ih, List.cons_append]

theorem undouble_doubled (q : Char) (cs : List Char) : undouble q (doubled q cs) = cs := by
  have h := undouble_doubled_append q [] cs
  have hnil : undouble q [] = [] := rfl
  rwa [hnil, List.append_nil, List.append_nil] at h

theorem isTrimmed_quotation {q : Char} (hq : isBlank q = false) (cs : List Char) :
    IsTrimmed (quotation q cs) :=
  ⟨⟨q, _, rfl, hq⟩, ⟨q :: doubled q cs, q, rfl, hq⟩⟩

end Text
end SchemaMap
