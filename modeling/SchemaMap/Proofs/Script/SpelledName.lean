/-
# Names as they are spelled

A name is spelled plainly, between double or back quotes with those in it doubled, or between square
brackets with the closing ones in it doubled. Read by itself, each spelling gives the name. Read with
something right behind it, it gives something longer that still holds all characters of the name: only
the outermost marks of a word are taken off, and only if they are a pair.

Key definitions: `Script.Spelling`, `Script.SpelledName`, `Script.SpelledName.IsElementWord`.
Key theorems: `Script.SpelledName.unquoted_text`, `Script.SpelledName.unquoted_append`,
`Script.SpelledName.isOneOf_text_iff`.
-/
import SchemaMap.Proofs.Script.QuotedTable

namespace SchemaMap
namespace Script

open Text (isBlank isWord isAsciiLetter asciiUpper sameLetters quotation doubled IsTrimmed
  forall_mem_of_all)

variable {sep : Char → Bool}

/-! ### Spellings -/

/-- A character of a name without marks. -/
def isUnmarked (c : Char) : Bool :=
  isWord c || c == '#' || c == '@'

/-- The ways to spell a name. -/
inductive Spelling where
  | plain
  | double
  | back
  | brackets
deriving DecidableEq, Repr

/-- A name in its spelling. -/
def Spelling.text : Spelling → List Char → List Char
  | plain, n => n
  | double, n => quotation '"' n
  | back, n => quotation '`' n
  | brackets, n => bracketQuoted n

/-- A name and how it is spelled. Only a word can do without marks. -/
structure SpelledName where
  spelling : Spelling
  name : String
  word : spelling = .plain → name.toList ≠ [] ∧ ∀ c ∈ name.toList, isUnmarked c = true

namespace SpelledName

/-- A name as it is spelled. -/
def text (n : SpelledName) : List Char :=
  n.spelling.text n.name.toList

/-- A name that nothing cuts in the name of a table. Without square brackets this is any name. -/
def HeldInName (n : SpelledName) : Prop :=
  n.spelling = .brackets → HoldsInName n.name.toList

/-- A name that nothing cuts in a column list. Without square brackets this is any name. -/
def HeldInList (n : SpelledName) : Prop :=
  n.spelling = .brackets → HoldsInList n.name.toList

/-- A name that is spelled like one of the words that start an element other than a column. -/
def IsElementWord (n : SpelledName) : Prop :=
  n.spelling = .plain ∧ ∃ w ∈ elementWords, sameLetters w.toList n.name.toList = true

instance (n : SpelledName) : Decidable n.IsElementWord :=
  inferInstanceAs (Decidable (_ ∧ _))

end SpelledName

/-! ### Plain names -/

theorem isBlank_of_isUnmarked {c : Char} (h : isUnmarked c = true) : isBlank c = false := by
  simp only [isUnmarked, Bool.or_eq_true, beq_iff_eq] at h
  rcases h with (h | rfl) | rfl
  · exact Text.isBlank_of_isWord h
  · decide
  · decide

theorem isUnmarked_of_isAsciiLetter {c : Char} (h : isAsciiLetter c = true) :
    isUnmarked c = true := by
  have hcode := Text.toNat_of_isAsciiLetter h
  have hword : isWord c = true := by
    rw [isWord, if_pos (by omega), h, Bool.true_or, Bool.true_or]
  rw [isUnmarked, hword, Bool.true_or, Bool.true_or]

theorem isCalm_of_isUnmarked {c : Char} (h : isUnmarked c = true) : IsCalm c :=
  isCalm_of_class (by decide) h

theorem isTrimmed_of_unmarked {w : List Char} (hne : w ≠ [])
    (hw : ∀ c ∈ w, isUnmarked c = true) : IsTrimmed w :=
  Text.isTrimmed_of_forall hne fun c hc => isBlank_of_isUnmarked (hw c hc)

theorem whole_of_unmarked (hsep : ∀ c, isUnmarked c = true → sep c = false) {w : List Char}
    (hw : ∀ c ∈ w, isUnmarked c = true) : Whole sep w :=
  whole_code (fun c hc => isCalm_of_isUnmarked (hw c hc)) fun c hc =>
    ⟨Text.ne_of_class (by decide) (hw c hc), Text.ne_of_class (by decide) (hw c hc),
      hsep c (hw c hc)⟩

/-- A word that starts with none of the marks is read as it is. -/
theorem unquoted_unmarked {c : Char} (h : isUnmarked c = true) (cs : List Char) :
    unquoted (c :: cs) = c :: cs := by
  have hmark (d : Char) (hd : isUnmarked d = false) : ¬d = c :=
    fun he => absurd h (by rw [← he, hd]; decide)
  simp [unquoted, between?, Text.char?, hmark '"' (by decide), hmark '[' (by decide),
    hmark '`' (by decide)]

theorem isQuotedWord_unmarked {c : Char} (h : isUnmarked c = true) (cs : List Char) :
    isQuotedWord (c :: cs) = false := by
  have hmark (d : Char) (hd : isUnmarked d = false) : (c == d) = false :=
    beq_eq_false_iff_ne.2 (Text.ne_of_class hd h)
  simp [isQuotedWord, hmark '"' (by decide), hmark '[' (by decide), hmark '`' (by decide)]

/-! ### Words that start other elements -/

/-- Where the case of letters is ignored, a word of letters is one of letters only. -/
theorem letters_of_elementWord {t : List Char}
    (h : ∃ w ∈ elementWords, sameLetters w.toList t = true) :
    t ≠ [] ∧ ∀ c ∈ t, isAsciiLetter c = true := by
  obtain ⟨w, hw, hsame⟩ := h
  have hletters : ∀ w ∈ elementWords, w.toList ≠ [] ∧
      w.toList.all (fun c => isAsciiLetter (asciiUpper c)) = true := by decide
  obtain ⟨hne, hupper⟩ := hletters w hw
  have hmap : w.toList.map asciiUpper = t.map asciiUpper := beq_iff_eq.1 hsame
  constructor
  · rintro rfl
    exact hne (List.map_eq_nil_iff.1 hmap)
  · intro c hc
    have hmem : asciiUpper c ∈ w.toList.map asciiUpper := hmap ▸ List.mem_map_of_mem hc
    obtain ⟨d, hd, hdc⟩ := List.mem_map.1 hmem
    exact Text.isAsciiLetter_of_asciiUpper (hdc ▸ List.all_eq_true.1 hupper d hd)

theorem isOneOf_iff {ws : List String} {t : List Char} :
    isOneOf ws t = true ↔ isQuotedWord t = false ∧
      ∃ w ∈ ws, sameLetters w.toList (t.takeWhile (· != '(')) = true := by
  simp [isOneOf]

/-- Up to an opening parenthesis, a plain name is all of the word it starts. -/
theorem takeWhile_unmarked {w : List Char} (hw : ∀ c ∈ w, isUnmarked c = true) {r : List Char}
    (hr : ∀ c ∈ r.head?, c = '(') : (w ++ r).takeWhile (· != '(') = w := by
  apply Text.takeWhile_front
  · exact fun c hc => bne_iff_ne.2 (Text.ne_of_class (by decide) (hw c hc))
  · exact fun c hc => by simp [hr c hc]

/-! ### Names -/

namespace SpelledName

/-- What holds of plain names, of quotations and of the name in square brackets holds of the name as
it is spelled. -/
theorem forall_text {P : List Char → Prop} (n : SpelledName)
    (hplain : ∀ w, w ≠ [] → (∀ c ∈ w, isUnmarked c = true) → P w)
    (hquoted : ∀ q, (q = '"' ∨ q = '`') → ∀ s, P (quotation q s))
    (hbrackets : n.spelling = .brackets → P (bracketQuoted n.name.toList)) : P n.text := by
  obtain ⟨spelling, name, word⟩ := n
  cases spelling with
  | plain => exact hplain _ (word rfl).1 (word rfl).2
  | double => exact hquoted '"' (.inl rfl) _
  | back => exact hquoted '`' (.inr rfl) _
  | brackets => exact hbrackets rfl

theorem isTrimmed (n : SpelledName) : IsTrimmed n.text :=
  n.forall_text (fun _ => isTrimmed_of_unmarked)
    (fun q hq => Text.isTrimmed_quotation (by rcases hq with rfl | rfl <;> decide))
    fun _ => isTrimmed_bracketQuoted _

theorem isQuote {q : Char} (h : q = '"' ∨ q = '`') : IsQuote q := by
  rcases h with rfl | rfl
  · exact .inl rfl
  · exact .inr (.inl rfl)

variable {n : SpelledName}

theorem HeldInList.whole (h : n.HeldInList) : Whole isBlank n.text :=
  n.forall_text (fun _ _ hw => whole_of_unmarked (fun _ => isBlank_of_isUnmarked) hw)
    (fun _ hq => whole_quotation (isQuote hq))
    fun hb => (h hb).whole fun c hc => by rw [endsColumnName, hc, Bool.or_true]

theorem HeldInName.flat (h : n.HeldInName) : Flat n.text := by
  refine n.forall_text (fun w _ hw => ?_) (fun _ hq => flat_quotation (isQuote hq))
    fun hb => (h hb).flat
  refine ⟨_, scans_code fun c hc => isCalm_of_isUnmarked (hw c hc), ?_⟩
  refine List.forall_mem_map.2 fun c hc he => ?_
  exact Text.ne_of_class (by decide) (hw c hc) (congrArg Prod.fst he)

theorem HeldInName.commentless (h : n.HeldInName) : Commentless n.text := by
  refine n.forall_text (fun w _ hw => ?_) (fun q hq s => ?_) fun hb =>
    ⟨_, scans_of_closed (h hb).closedOff, (h hb).commentless⟩
  · have hwhole : Whole (fun _ => false) w := whole_of_unmarked (fun _ _ => rfl) hw
    exact hwhole.commentless
  · have hwhole : Whole (fun _ => false) (quotation q s) := whole_quotation (isQuote hq) s
    exact hwhole.commentless

theorem HeldInName.onePart (h : n.HeldInName)
    (hsep : ∀ c, c ≠ '.' → isBlank c = false → sep c = false) : OnePart sep n.text := by
  refine n.forall_text (fun w _ hw => ?_) (fun _ hq s => (whole_quotation (isQuote hq) s).onePart)
    fun hb => (h hb).onePart hsep
  refine (whole_of_unmarked (fun c hc => ?_) hw).onePart
  exact hsep c (Text.ne_of_class (by decide) hc) (isBlank_of_isUnmarked hc)

/-! ### What is read of a name -/

/-- A name that is spelled with marks, and the two marks. -/
theorem exists_marks (n : SpelledName) (h : n.spelling ≠ .plain) :
    ∃ o e, IsMarks o e ∧ n.text = o :: (doubled e n.name.toList ++ [e]) := by
  obtain ⟨spelling, name, word⟩ := n
  cases spelling with
  | plain => exact absurd rfl h
  | double => exact ⟨'"', '"', .double, rfl⟩
  | back => exact ⟨'`', '`', .back, rfl⟩
  | brackets => exact ⟨'[', ']', .brackets, rfl⟩

/-- A plain name is a word that starts with an unmarked character. -/
theorem exists_plain (n : SpelledName) (h : n.spelling = .plain) :
    ∃ c cs, n.text = n.name.toList ∧ n.name.toList = c :: cs ∧ isUnmarked c = true := by
  obtain ⟨hne, hall⟩ := n.word h
  obtain ⟨c, cs, hcs⟩ := List.exists_cons_of_ne_nil hne
  refine ⟨c, cs, ?_, hcs, hall c (hcs ▸ List.mem_cons_self)⟩
  unfold text
  rw [h]
  rfl

/-- **Every spelling is read as the name.** -/
theorem unquoted_text (n : SpelledName) : unquoted n.text = n.name.toList := by
  by_cases h : n.spelling = .plain
  · obtain ⟨c, cs, htext, hname, hc⟩ := n.exists_plain h
    rw [htext, hname, unquoted_unmarked hc]
  · obtain ⟨o, e, hmarks, htext⟩ := n.exists_marks h
    rw [htext, unquoted_between hmarks]

/-- A name stands in its spelling, character by character. -/
theorem sublist_text (n : SpelledName) : n.name.toList.Sublist n.text := by
  by_cases h : n.spelling = .plain
  · obtain ⟨c, cs, htext, -, -⟩ := n.exists_plain h
    rw [htext]
  · obtain ⟨o, e, -, htext⟩ := n.exists_marks h
    rw [htext]
    exact ((Text.sublist_doubled e n.name.toList).trans (List.sublist_append_left _ _)).cons o

/-- **What adjoins a name is read as part of it**: the word is read as a longer text, which holds the
characters of the name. -/
theorem unquoted_append (n : SpelledName) {r : List Char} (hr : r ≠ []) :
    n.name.toList.Sublist (unquoted (n.text ++ r)) ∧
      n.name.toList.length < (unquoted (n.text ++ r)).length := by
  have hlonger {more : List Char} (hmore : more ≠ []) {s : List Char}
      (hs : n.name.toList.Sublist s) :
      n.name.toList.Sublist (s ++ more) ∧ n.name.toList.length < (s ++ more).length := by
    refine ⟨hs.trans (List.sublist_append_left s more), ?_⟩
    have hle := hs.length_le
    have hpos := List.length_pos_of_ne_nil hmore
    rw [List.length_append]
    omega
  by_cases h : n.spelling = .plain
  · obtain ⟨c, cs, htext, hname, hc⟩ := n.exists_plain h
    have hread : unquoted (n.text ++ r) = n.name.toList ++ r := by
      rw [htext, hname, List.cons_append, unquoted_unmarked hc]
    rw [hread]
    exact hlonger hr (List.Sublist.refl _)
  · obtain ⟨o, e, hmarks, htext⟩ := n.exists_marks h
    have hword : n.text ++ r = o :: (doubled e n.name.toList ++ e :: r) := by
      rw [htext, List.cons_append, List.append_assoc, List.singleton_append]
    rcases unquoted_beyond hmarks n.name.toList hr with ⟨more, hmore, hread⟩ | hread
    · rw [hword, hread]
      exact hlonger hmore (List.Sublist.refl _)
    · rw [hword, hread, ← hword]
      exact hlonger hr n.sublist_text

/-- A word that starts with marks is none of the words that start other elements. -/
theorem plain_of_isOneOf (n : SpelledName) {ws : List String} {r : List Char}
    (h : isOneOf ws (n.text ++ r) = true) : n.spelling = .plain := by
  by_contra hplain
  obtain ⟨o, e, hmarks, htext⟩ := n.exists_marks hplain
  have hquoted : isQuotedWord (n.text ++ r) = true := by
    rw [htext]
    cases hmarks <;> rfl
  rw [(isOneOf_iff.1 h).1] at hquoted
  exact absurd hquoted (by decide)

theorem isOneOf_text_iff (n : SpelledName) :
    isOneOf elementWords n.text = true ↔ n.IsElementWord := by
  have htake (h : n.spelling = .plain) : n.text.takeWhile (· != '(') = n.name.toList := by
    obtain ⟨c, cs, htext, -, -⟩ := n.exists_plain h
    have htaken := takeWhile_unmarked (n.word h).2 (r := []) (fun _ hnone => nomatch hnone)
    rw [List.append_nil] at htaken
    rw [htext, htaken]
  constructor
  · intro h
    have hplain : n.spelling = .plain := by
      rw [← List.append_nil n.text] at h
      exact n.plain_of_isOneOf h
    refine ⟨hplain, ?_⟩
    rw [← htake hplain]
    exact (isOneOf_iff.1 h).2
  · rintro ⟨hplain, hword⟩
    obtain ⟨c, cs, htext, hname, hc⟩ := n.exists_plain hplain
    refine isOneOf_iff.2 ⟨?_, ?_⟩
    · rw [htext, hname, isQuotedWord_unmarked hc]
    · rwa [htake hplain]

end SpelledName

end Script
end SchemaMap
