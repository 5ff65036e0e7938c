/-
# The words in front of the name of a created table

The head of a statement that creates a table is spelled with words in letters of either case, each
with white space behind it. Most of them may be left out; the reader skips those that stand there, one
kind after the other, and mistakes no word for another, since each ends at its white space. So what it
leaves is the name, unless the name and what follows it go on with the last words of the head.

Key definitions: `Script.SpelledWord`, `Script.TableHead`.
Key theorems: `Script.SpelledWord.keywords?_other`, `Script.orSkip_oneKeyword?_spelled`,
`Script.TableHead.tableHead?_eq`.
-/
import SchemaMap.Proofs.Script.Followed
import SchemaMap.Proofs.Script.JoinedTable

namespace SchemaMap
namespace Script

open Text (isBlank isAsciiLetter caseFold keyword? keywords? oneKeyword? blanks? orSkip
  skipBlanks)

/-! ### The words of a head -/

/-- A word of letters with white space behind it. -/
structure SpelledWord where
  letters : List Char
  gap : List Char
  letters_ne_nil : letters ≠ []
  gap_ne_nil : gap ≠ []
  letters_fold : ∀ c ∈ letters, isAsciiLetter (caseFold c) = true
  gap_blank : ∀ c ∈ gap, isBlank c = true

/-- A word as it is spelled. -/
def SpelledWord.text (w : SpelledWord) : List Char :=
  w.letters ++ w.gap

/-- A word in upper case. -/
def SpelledWord.word (w : SpelledWord) : String :=
  String.ofList (w.letters.map caseFold)

/-- Words as they are spelled, one behind the other. -/
def wordsText (ws : List SpelledWord) : List Char :=
  ws.flatMap SpelledWord.text

/-- The words in front of the name of a created table; all but two of them may be left out. -/
structure TableHead where
  create : SpelledWord
  replacing : List SpelledWord
  scope : List SpelledWord
  life : List SpelledWord
  table : SpelledWord
  guarded : List SpelledWord
  create_word : create.word = "CREATE"
  replacing_words : replacing.map SpelledWord.word ∈ [[], ["OR", "REPLACE"]]
  scope_words : scope.map SpelledWord.word ∈ [[], ["GLOBAL"], ["LOCAL"]]
  life_words : life.map SpelledWord.word ∈ [[], ["TEMP"], ["TEMPORARY"], ["UNLOGGED"]]
  table_word : table.word = "TABLE"
  guarded_words : guarded.map SpelledWord.word ∈ [[], ["IF", "NOT", "EXISTS"]]

/-- The words of a head from the kind of the table on. -/
def TableHead.kind (h : TableHead) : List SpelledWord :=
  h.life ++ h.table :: h.guarded

/-- A head as it is spelled. -/
def TableHead.text (h : TableHead) : List Char :=
  wordsText (h.create :: (h.replacing ++ (h.scope ++ h.kind)))

/-- A text that does not start with white space. -/
def StartsAtOnce (r : List Char) : Prop :=
  skipBlanks r = r

theorem letter_of_isBlank {c : Char} (h : isBlank c = true) :
    isAsciiLetter (caseFold c) = false :=
  Text.class_of_isBlank (p := fun c => isAsciiLetter (caseFold c)) (by decide) h

theorem isBlank_of_letter {c : Char} (h : isAsciiLetter (caseFold c) = true) :
    isBlank c = false := by
  by_contra hblank
  rw [letter_of_isBlank (Bool.not_eq_false _ ▸ hblank)] at h
  cases h

/-- A text that starts with white space starts with a blank. -/
theorem isBlank_of_head {gap : List Char} (hne : gap ≠ []) (hgap : ∀ c ∈ gap, isBlank c = true)
    (r : List Char) : ∀ c ∈ (gap ++ r).head?, isBlank c = true := by
  rw [List.head?_append_of_ne_nil gap hne]
  exact fun c hc => hgap c (List.mem_of_mem_head? hc)

namespace SpelledWord

variable (w : SpelledWord) {r : List Char}

theorem startsAtOnce (r : List Char) : StartsAtOnce (w.text ++ r) := by
  obtain ⟨c, cs, hletters⟩ := List.exists_cons_of_ne_nil w.letters_ne_nil
  have hc := isBlank_of_letter (w.letters_fold c (hletters ▸ List.mem_cons_self))
  unfold text
  rw [hletters]
  exact Text.skipBlanks_of_head hc _

theorem commentless : Commentless w.text := by
  refine commentless_code (List.forall_mem_append.2 ⟨fun c hc => ?_, fun c hc => ?_⟩)
  · exact isCalm_of_letter (w.letters_fold c hc)
  · exact isCalm_of_isBlank (w.gap_blank c hc)

/-- A word is read in letters of either case, with the white space behind it. -/
theorem keywords?_eq (hr : StartsAtOnce r) (ws : List String) :
    keywords? (w.word :: ws) (w.text ++ r) = keywords? ws r := by
  have hword : keyword? w.word.toList (w.letters ++ (w.gap ++ r)) = some (w.gap ++ r) := by
    rw [word, String.toList_ofList]
    exact Text.keyword?_fold _ w.letters
  have hblanks : blanks? (w.gap ++ r) = some r := by
    obtain ⟨c, cs, hgap⟩ := List.exists_cons_of_ne_nil w.gap_ne_nil
    have hblank := w.gap_blank
    rw [hgap] at hblank
    obtain ⟨hc, hcs⟩ := List.forall_mem_cons.1 hblank
    rw [hgap, List.cons_append, blanks?, if_pos hc, Text.skipBlanks_append hcs, hr]
  rw [text, List.append_assoc, keywords?, hword, Option.bind_some, hblanks, Option.bind_some]

/-- No other word is read for it. -/
theorem keywords?_other {v : String} (hv : IsKeyword v) (hne : v ≠ w.word) (ws : List String)
    (r : List Char) : keywords? (v :: ws) (w.text ++ r) = none := by
  by_contra hsome
  obtain ⟨s, hs⟩ := Option.ne_none_iff_exists'.1 hsome
  obtain ⟨front, gap, rest, htext, hfront, hgap, hblank, -⟩ := Text.keywords?_eq_some hs
  have hletters : ∀ c ∈ front, isAsciiLetter (caseFold c) = true := fun c hc =>
    hv _ (hfront ▸ List.mem_map_of_mem hc)
  -- both words end in front of the same white space
  have htake := Text.takeWhile_front hletters fun c hc =>
    letter_of_isBlank (isBlank_of_head hgap hblank rest c hc)
  rw [← htext, text, List.append_assoc, Text.takeWhile_front w.letters_fold fun c hc =>
    letter_of_isBlank (isBlank_of_head w.gap_ne_nil w.gap_blank r c hc)] at htake
  refine hne (String.toList_injective ?_)
  rw [word, String.toList_ofList, htake, hfront]

end SpelledWord

/-! ### The head -/

variable {r : List Char}

theorem wordsText_cons (w : SpelledWord) (ws : List SpelledWord) (r : List Char) :
    wordsText (w :: ws) ++ r = w.text ++ (wordsText ws ++ r) := by
  rw [wordsText, List.flatMap_cons, List.append_assoc, ← wordsText]

theorem wordsText_append (vs ws : List SpelledWord) (r : List Char) :
    wordsText (vs ++ ws) ++ r = wordsText vs ++ (wordsText ws ++ r) := by
  rw [wordsText, List.flatMap_append, List.append_assoc, ← wordsText, ← wordsText]

theorem startsAtOnce_words (hr : StartsAtOnce r) : ∀ ws, StartsAtOnce (wordsText ws ++ r)
  | [] => hr
  | w :: ws => by
    rw [wordsText_cons]
    exact w.startsAtOnce _

/-- Words are read one behind the other. -/
theorem keywords?_spelled (hr : StartsAtOnce r) : ∀ ws : List SpelledWord,
    keywords? (ws.map SpelledWord.word) (wordsText ws ++ r) = some r
  | [] => rfl
  | w :: ws => by
    rw [wordsText_cons, List.map_cons, w.keywords?_eq (startsAtOnce_words hr ws)]
    exact keywords?_spelled hr ws

/-- A list of words that starts with none of the words `vs`. -/
def StartsWithout (vs : List String) (us : List SpelledWord) : Prop :=
  ∃ u rest, us = u :: rest ∧ u.word ∉ vs

/-- Optional words are skipped, and where they are left out nothing is. -/
theorem orSkip_keywords?_spelled {v : String} {vs : List String} (hv : IsKeyword v)
    {ws us : List SpelledWord} (hws : ws.map SpelledWord.word ∈ [[], v :: vs])
    (hus : StartsWithout [v] us) (hr : StartsAtOnce r) :
    orSkip (keywords? (v :: vs)) (wordsText (ws ++ us) ++ r) = wordsText us ++ r := by
  unfold orSkip
  rw [wordsText_append]
  rcases List.mem_pair.1 hws with hnil | hall
  · obtain ⟨u, rest, rfl, hu⟩ := hus
    have hother : keywords? (v :: vs) (wordsText (u :: rest) ++ r) = none := by
      rw [wordsText_cons]
      exact u.keywords?_other hv (fun he => hu (he ▸ List.mem_cons_self)) vs _
    rw [List.map_eq_nil_iff.1 hnil]
    show (keywords? (v :: vs) (wordsText (u :: rest) ++ r)).getD _ = _
    rw [hother]
    rfl
  · rw [← hall, keywords?_spelled (startsAtOnce_words hr us)]
    rfl

theorem oneKeyword?_spelled (w : SpelledWord) (hr : StartsAtOnce r) : ∀ {vs : List String},
    (∀ v ∈ vs, IsKeyword v) →
      oneKeyword? vs (w.text ++ r) = if w.word ∈ vs then some r else none
  | [], _ => rfl
  | v :: vs, h => by
    obtain ⟨hv, hvs⟩ := List.forall_mem_cons.1 h
    rw [oneKeyword?, oneKeyword?_spelled w hr hvs]
    by_cases hw : v = w.word
    · rw [hw, w.keywords?_eq hr, if_pos List.mem_cons_self]
      rfl
    · rw [w.keywords?_other hv hw, Option.none_or]
      simp [Ne.symm hw]

/-- One of some optional words is skipped, and where it is left out nothing is. -/
theorem orSkip_oneKeyword?_spelled {vs : List String} (hvs : ∀ v ∈ vs, IsKeyword v)
    {ws us : List SpelledWord} (hws : ws.map SpelledWord.word ∈ [] :: vs.map fun v => [v])
    (hus : StartsWithout vs us) (hr : StartsAtOnce r) :
    orSkip (oneKeyword? vs) (wordsText (ws ++ us) ++ r) = wordsText us ++ r := by
  unfold orSkip
  rw [wordsText_append]
  rcases List.mem_cons.1 hws with hnil | hone
  · obtain ⟨u, rest, rfl, hu⟩ := hus
    rw [List.map_eq_nil_iff.1 hnil]
    show (oneKeyword? vs (wordsText (u :: rest) ++ r)).getD _ = _
    rw [wordsText_cons, oneKeyword?_spelled u (startsAtOnce_words hr rest) hvs, if_neg hu]
    rfl
  · obtain ⟨v, hv, hmap⟩ := List.mem_map.1 hone
    obtain ⟨w, rfl, rfl⟩ := List.map_eq_singleton_iff.1 hmap.symm
    rw [wordsText_cons]
    show (oneKeyword? vs (w.text ++ (wordsText us ++ r))).getD _ = _
    rw [oneKeyword?_spelled w (startsAtOnce_words hr us) hvs, if_pos hv]
    rfl

/-- Words that may be left out change nothing of that, if they are others. -/
theorem StartsWithout.behind {vs : List String} {ws us : List SpelledWord}
    (h : StartsWithout vs us) (ks : List String)
    (hws : ws.map SpelledWord.word ∈ [] :: ks.map fun k => [k]) (hks : ∀ k ∈ ks, k ∉ vs) :
    StartsWithout vs (ws ++ us) := by
  rcases List.mem_cons.1 hws with hnil | hone
  · rw [List.map_eq_nil_iff.1 hnil]
    exact h
  · obtain ⟨k, hk, hmap⟩ := List.mem_map.1 hone
    obtain ⟨w, rfl, rfl⟩ := List.map_eq_singleton_iff.1 hmap.symm
    exact ⟨w, us, rfl, hks _ hk⟩

namespace TableHead

variable (h : TableHead)

theorem table_startsWithout {vs : List String} (hvs : "TABLE" ∉ vs) :
    StartsWithout vs (h.table :: h.guarded) :=
  ⟨h.table, h.guarded, rfl, by rwa [h.table_word]⟩

theorem kind_startsWithout {vs : List String}
    (hvs : ∀ v ∈ ["TABLE", "TEMP", "TEMPORARY", "UNLOGGED"], v ∉ vs) : StartsWithout vs h.kind := by
  obtain ⟨htable, hlife⟩ := List.forall_mem_cons.1 hvs
  exact (h.table_startsWithout htable).behind ["TEMP", "TEMPORARY", "UNLOGGED"] h.life_words hlife

theorem commentless : Commentless h.text := by
  have hwords : ∀ ws : List SpelledWord, Commentless (wordsText ws) := fun ws => by
    induction ws with
    | nil => exact commentless_nil
    | cons w ws ih => exact w.commentless.append ih
  exact hwords _

/-- **The head of a table ends where its name starts.** -/
theorem tableHead?_eq {front : List Char} (hfront : ∀ c ∈ front, isBlank c = true)
    (hr : StartsAtOnce r) (hif : keywords? ["IF", "NOT", "EXISTS"] r = none) :
    tableHead? (front ++ (h.text ++ r)) = some r := by
  have hskip : skipBlanks (front ++ (h.text ++ r)) = h.text ++ r := by
    rw [Text.skipBlanks_append hfront]
    exact startsAtOnce_words hr _
  have hcreate : keywords? ["CREATE"] (h.text ++ r) =
      some (wordsText (h.replacing ++ (h.scope ++ h.kind)) ++ r) := by
    rw [text, wordsText_cons, ← h.create_word, h.create.keywords?_eq (startsAtOnce_words hr _)]
    rfl
  have hreplacing : orSkip (keywords? ["OR", "REPLACE"])
      (wordsText (h.replacing ++ (h.scope ++ h.kind)) ++ r) =
        wordsText (h.scope ++ h.kind) ++ r :=
    orSkip_keywords?_spelled (by decide) h.replacing_words
      ((h.kind_startsWithout (by decide)).behind ["GLOBAL", "LOCAL"] h.scope_words (by decide)) hr
  have hscope : orSkip (oneKeyword? ["GLOBAL", "LOCAL"]) (wordsText (h.scope ++ h.kind) ++ r) =
      wordsText h.kind ++ r :=
    orSkip_oneKeyword?_spelled (by decide) h.scope_words (h.kind_startsWithout (by decide)) hr
  have hlife : orSkip (oneKeyword? ["TEMP", "TEMPORARY", "UNLOGGED"]) (wordsText h.kind ++ r) =
      wordsText (h.table :: h.guarded) ++ r :=
    orSkip_oneKeyword?_spelled (by decide) h.life_words (h.table_startsWithout (by decide)) hr
  have htable : keywords? ["TABLE"] (wordsText (h.table :: h.guarded) ++ r) =
      some (wordsText h.guarded ++ r) := by
    rw [wordsText_cons, ← h.table_word, h.table.keywords?_eq (startsAtOnce_words hr _)]
    rfl
  have hguarded : orSkip (keywords? ["IF", "NOT", "EXISTS"]) (wordsText h.guarded ++ r) = r := by
    unfold orSkip
    rcases List.mem_pair.1 h.guarded_words with hnil | hall
    · rw [List.map_eq_nil_iff.1 hnil]
      show (keywords? ["IF", "NOT", "EXISTS"] r).getD r = r
      rw [hif]
      rfl
    · rw [← hall, keywords?_spelled hr]
      rfl
  unfold tableHead?
  rw [hskip, hcreate]
  simp only [Option.bind_eq_bind, Option.bind_some, hreplacing, hscope, hlife, htable, hguarded]
  rfl

end TableHead

end Script
end SchemaMap
