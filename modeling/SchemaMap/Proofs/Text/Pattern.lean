/-
# What the patterns leave of a text they match

A pattern that is given what it looks for, in front of any text, leaves that text. These are
the steps by which a reader is followed through a text that was written for it.

Key theorems: `Text.after?_append`, `Text.skipBlanks_append`, `Text.skipBlanks_of_head`,
`Text.takeWhile_front`, `Text.run?_eq_some`, `Text.run?_eq_append`, `Text.run?_append`,
`Text.blanks?_eq_some`, `Text.keyword?_fold`, `Text.keyword?_letters`, `Text.keywords?_eq_some`,
`Text.keywords?_head`.
-/
import SchemaMap.Text.Pattern
import SchemaMap.Proofs.Text.Class

namespace SchemaMap
namespace Text

theorem after?_append : ∀ p cs : List Char, after? p (p ++ cs) = some cs
  | [], _ => rfl
  | c :: p, cs => by simp [after?, after?_append p cs]

theorem skipBlanks_append {gap : List Char} (h : ∀ c ∈ gap, isBlank c = true)
    (cs : List Char) : skipBlanks (gap ++ cs) = skipBlanks cs :=
  List.dropWhile_append_of_pos h

theorem skipBlanks_blank {c : Char} (h : isBlank c = true) (cs : List Char) :
    skipBlanks (c :: cs) = skipBlanks cs := by
  simp [skipBlanks, h]

theorem skipBlanks_of_head {c : Char} (h : isBlank c = false) (cs : List Char) :
    skipBlanks (c :: cs) = c :: cs := by
  simp [skipBlanks, h]

/-- A run is what the front of a text has of its class. -/
theorem run?_eq_takeWhile {p : Char → Bool} {cs w rest : List Char}
    (h : run? p cs = some (w, rest)) :
    cs.takeWhile p = w ∧ cs.dropWhile p = rest ∧ w ≠ [] := by
  unfold run? at h
  cases hw : cs.takeWhile p with
  | nil => rw [hw] at h; cases h
  | cons d ds =>
    rw [hw] at h
    obtain ⟨rfl, rfl⟩ := Prod.mk.inj (Option.some.inj h)
    exact ⟨rfl, rfl, List.cons_ne_nil d ds⟩

/-- A run is not empty and holds characters of its class only. -/
theorem run?_eq_some {p : Char → Bool} {cs w rest : List Char} (h : run? p cs = some (w, rest)) :
    w ≠ [] ∧ ∀ c ∈ w, p c = true := by
  obtain ⟨rfl, -, hne⟩ := run?_eq_takeWhile h
  exact ⟨hne, fun c hc => List.all_eq_true.1 List.all_takeWhile c hc⟩

theorem run?_eq_append {p : Char → Bool} {cs w rest : List Char} (h : run? p cs = some (w, rest)) :
    cs = w ++ rest := by
  obtain ⟨rfl, rfl, -⟩ := run?_eq_takeWhile h
  exact List.takeWhile_append_dropWhile.symm

/-- A text is taken up to the first character outside of a class. -/
theorem takeWhile_front {p : Char → Bool} {w r : List Char} (hw : ∀ c ∈ w, p c = true)
    (hr : ∀ c ∈ r.head?, p c = false) : (w ++ r).takeWhile p = w := by
  rw [List.takeWhile_append_of_pos hw]
  cases r with
  | nil => exact List.append_nil w
  | cons c r => rw [List.takeWhile_cons_of_neg (by simp [hr c rfl]), List.append_nil]

/-- A run is read up to the first character outside its class. -/
theorem run?_append {p : Char → Bool} {w r : List Char} (hne : w ≠ [])
    (hw : ∀ c ∈ w, p c = true) (hr : ∀ c ∈ r.head?, p c = false) :
    run? p (w ++ r) = some (w, r) := by
  have hdrop : (w ++ r).dropWhile p = r := by
    rw [List.dropWhile_append_of_pos hw]
    cases r with
    | nil => rfl
    | cons c r => rw [List.dropWhile_cons_of_neg (by simp [hr c rfl])]
  have htake : (w ++ r).takeWhile p = w := takeWhile_front hw hr
  obtain ⟨c, cs, rfl⟩ := List.exists_cons_of_ne_nil hne
  rw [run?, htake, hdrop]

theorem blanks?_eq_some {cs r : List Char} (h : blanks? cs = some r) :
    ∃ gap, cs = gap ++ r ∧ gap ≠ [] ∧ ∀ c ∈ gap, isBlank c = true := by
  cases cs with
  | nil => cases h
  | cons c cs =>
    rw [blanks?] at h
    split at h
    · rename_i hc
      cases h
      refine ⟨c :: cs.takeWhile isBlank, ?_, List.cons_ne_nil _ _, fun d hd => ?_⟩
      · rw [List.cons_append, skipBlanks, List.takeWhile_append_dropWhile]
      · rcases List.mem_cons.1 hd with rfl | hd
        · exact hc
        · exact List.all_eq_true.1 List.all_takeWhile d hd
    · cases h

theorem skipChar_of_ne {c d : Char} (h : d ≠ c) (cs : List Char) :
    skipChar c (d :: cs) = d :: cs := by
  simp [skipChar, orSkip, char?, h.symm]

/-! ### Words -/

theorem keyword?_eq_some : ∀ {word cs r : List Char}, keyword? word cs = some r →
    ∃ front, cs = front ++ r ∧ front.map caseFold = word
  | [], cs, r, h => ⟨[], Option.some.inj h, rfl⟩
  | w :: ws, [], r, h => by cases h
  | w :: ws, c :: cs, r, h => by
    rw [keyword?] at h
    split at h
    · obtain ⟨front, rfl, hf⟩ := keyword?_eq_some h
      exact ⟨c :: front, rfl, by rw [List.map_cons, hf, ‹caseFold c = w›]⟩
    · cases h

/-- A word is read from its letters in either case. -/
theorem keyword?_fold (r : List Char) : ∀ front : List Char,
    keyword? (front.map caseFold) (front ++ r) = some r
  | [] => rfl
  | c :: front => by
    rw [List.map_cons, List.cons_append, keyword?, if_pos rfl]
    exact keyword?_fold r front

/-- A word in upper case is read. -/
theorem keyword?_append (r : List Char) {word : List Char} (h : ∀ c ∈ word, caseFold c = c) :
    keyword? word (word ++ r) = some r := by
  have hfold := keyword?_fold r word
  rwa [List.map_congr_left h, List.map_id'] at hfold

/-- A word without the letters `S` and `K` is read from its own letters, each in either case. -/
theorem keyword?_letters {word cs r : List Char} (hs : 'S' ∉ word) (hk : 'K' ∉ word)
    (h : keyword? word cs = some r) : ∃ front, cs = front ++ r ∧ front.map asciiUpper = word := by
  obtain ⟨front, rfl, hf⟩ := keyword?_eq_some h
  refine ⟨front, rfl, ?_⟩
  rw [← hf]
  refine List.map_congr_left fun c hc => (caseFold_eq_asciiUpper ?_ ?_).symm
  · exact fun he => hs (hf ▸ he ▸ List.mem_map_of_mem hc)
  · exact fun he => hk (hf ▸ he ▸ List.mem_map_of_mem hc)

theorem blanks?_head {cs r : List Char} (h : blanks? cs = some r) :
    ∃ c rest, cs = c :: rest ∧ isBlank c = true := by
  cases cs with
  | nil => cases h
  | cons c rest =>
    rw [blanks?] at h
    split at h
    · exact ⟨c, rest, rfl, ‹_›⟩
    · cases h

theorem keywords?_cons (w : String) (ws : List String) (cs : List Char) :
    keywords? (w :: ws) cs = (keywords? [w] cs).bind (keywords? ws) := by
  simp [keywords?, Option.bind_assoc]

/-- Where words are read, the first one stands there in either case, with white space behind it. -/
theorem keywords?_eq_some {w : String} {ws : List String} {cs r : List Char}
    (h : keywords? (w :: ws) cs = some r) : ∃ front gap rest, cs = front ++ (gap ++ rest) ∧
      front.map caseFold = w.toList ∧ gap ≠ [] ∧ (∀ c ∈ gap, isBlank c = true) ∧
      keywords? ws rest = some r := by
  obtain ⟨a, hword, hbehind⟩ := Option.bind_eq_some_iff.1 h
  obtain ⟨b, hblanks, hrest⟩ := Option.bind_eq_some_iff.1 hbehind
  obtain ⟨front, hcs, hfront⟩ := keyword?_eq_some hword
  obtain ⟨gap, ha, hne, hgap⟩ := blanks?_eq_some hblanks
  exact ⟨front, gap, b, by rw [hcs, ha], hfront, hne, hgap, hrest⟩

/-- A word in upper case and a blank in front of other words. -/
theorem keywords?_append {w : String} (h : ∀ c ∈ w.toList, caseFold c = c) (ws : List String)
    (r : List Char) : keywords? (w :: ws) (w.toList ++ ' ' :: r) = keywords? ws (skipBlanks r) := by
  have hblanks : blanks? (' ' :: r) = some (skipBlanks r) := rfl
  rw [keywords?, keyword?_append _ h, Option.bind_some, hblanks, Option.bind_some]

/-- Words of which the first starts with another letter. -/
theorem keywords?_none {w : String} {d : Char} (hw : w.toList.head? = some d) {c : Char}
    (h : caseFold c ≠ d) (ws : List String) (rest : List Char) :
    keywords? (w :: ws) (c :: rest) = none := by
  obtain ⟨ds, hw⟩ := List.head?_eq_some_iff.1 hw
  simp [keywords?, hw, keyword?, h]

theorem keywords?_head {w : String} {d : Char} (hw : w.toList.head? = some d)
    {ws : List String} {cs r : List Char} (h : keywords? (w :: ws) cs = some r) :
    ∃ c rest, cs = c :: rest ∧ caseFold c = d := by
  cases cs with
  | nil =>
    obtain ⟨ds, hw⟩ := List.head?_eq_some_iff.1 hw
    simp [keywords?, hw, keyword?] at h
  | cons c rest =>
    by_cases hc : caseFold c = d
    · exact ⟨c, rest, rfl, hc⟩
    · rw [keywords?_none hw hc] at h
      cases h

end Text
end SchemaMap
