/-
# The elements of a column list as they are spelled

An element of a column list is a column, whose name comes first, or a clause, which starts with one of
the words kept for clauses. The reader of the text takes everything up to the first white space for
the name or for the word. So it reads a column as it was meant if nothing adjoins its name and a
plain name is none of the words of clauses; and it passes over a clause if nothing but an opening
parenthesis adjoins its word.

Key definitions: `Script.adjoining`, `Script.SpelledColumn`, `Script.SpelledClause`,
`Script.SpelledElement`, `Script.SpelledElement.StandsOut`.
Key theorems: `Script.exists_first_word`, `Script.SpelledElement.read?_eq_iff`,
`Script.SpelledElement.markCount_le`, `Script.SpelledElement.filterMap_read_eq_iff`.
-/
import SchemaMap.Proofs.Script.FirstPart
import SchemaMap.Proofs.Script.SpelledName
import Mathlib.Algebra.Order.Ring.Nat
import Mathlib.Algebra.Order.BigOperators.Group.List

namespace SchemaMap
namespace Script

open Text (isBlank isAsciiLetter sameLetters dropEndWhile trim IsTrimmed)

/-! ### What adjoins a word -/

/-- The character that adjoins what stands in front of a text, if it is no white space. -/
def adjoining (behind : List Char) : Option Char :=
  behind.head?.filter fun c => !isBlank c

theorem adjoining_cons (c : Char) (cs : List Char) :
    adjoining (c :: cs) = if isBlank c then none else some c := by
  unfold adjoining
  cases hc : isBlank c <;> simp [hc]

theorem head?_of_adjoining {behind : List Char} {c : Char} (h : adjoining behind = some c) :
    behind.head? = some c :=
  (Option.filter_eq_some_iff.1 h).1

/-- White space at the end adjoins nothing. -/
theorem adjoining_dropEndWhile (cs : List Char) :
    adjoining (dropEndWhile isBlank cs) = adjoining cs := by
  cases cs with
  | nil => rfl
  | cons c cs =>
    by_cases hc : isBlank c = true
    · rw [adjoining_cons, if_pos hc]
      cases hrest : dropEndWhile isBlank (c :: cs) with
      | nil => rfl
      | cons d ds =>
        have hhead : (c :: cs).head? = some d := Text.head?_dropEndWhile (by rw [hrest]; rfl)
        obtain rfl : c = d := Option.some.inj hhead
        rw [adjoining_cons, if_pos hc]
    · have hkept := Text.dropEndWhile_append_of_neg (Bool.not_eq_true _ ▸ hc) cs []
      rw [List.nil_append, List.nil_append] at hkept
      rw [hkept, adjoining_cons, adjoining_cons]

/-- **The first word of a text** that starts with one word goes on with what adjoins it. -/
theorem exists_first_word {n : List Char} (h : OnePart isBlank n) (ht : IsTrimmed n)
    (b : List Char) :
    ∃ r rest, parts isBlank (n ++ b) = (n ++ r) :: rest ∧ r.head? = adjoining b := by
  obtain ⟨g, hg, hcut⟩ := h
  obtain ⟨p, hp⟩ := hg none b
  obtain ⟨part, ps, hb⟩ := exists_cutAt_eq_cons isBlank 0 (mark (.code p) b)
  have htrim : trim (n ++ part) = n ++ dropEndWhile isBlank part :=
    ht.trim_append (List.forall_mem_nil _) part
  have hparts : parts isBlank (n ++ b) =
      (n ++ dropEndWhile isBlank part) :: (ps.map trim).filter fun t => !t.isEmpty := by
    unfold parts tagged
    rw [hp, hcut hb, hg.chars_eq, List.map_cons, htrim,
      List.filter_cons_of_pos (by simp [ht.ne_nil])]
  refine ⟨_, _, hparts, ?_⟩
  cases b with
  | nil =>
    obtain ⟨rfl, -⟩ : [] = part ∧ [] = ps := List.cons.inj hb
    rfl
  | cons c cs =>
    by_cases hc : isBlank c = true
    · -- white space in code ends the first part at once
      have hregion : (step (.code p) c cs).1 = .code :=
        congrArg Prod.fst (opened_of_isCalm (isCalm_of_isBlank hc) p cs)
      have hseparates : separates isBlank 0 (c, (step (.code p) c cs).1) = true := by
        have ho : c ≠ '(' := Text.ne_of_class (by decide) hc
        have hclose : c ≠ ')' := Text.ne_of_class (by decide) hc
        simp [separates, hregion, hc, ho, hclose]
      rcases cutAt_eq_cons hb with ⟨-, rfl, -⟩ | ⟨hnot, -⟩
      · rw [adjoining_cons, if_pos hc]
        rfl
      · rw [hseparates] at hnot
        cases hnot
    · have hfalse : isBlank c = false := Bool.not_eq_true _ ▸ hc
      rcases cutAt_eq_cons hb with ⟨hsep, -⟩ | ⟨-, more, rfl, -⟩
      · exact absurd (separates_eq_true hsep).2.2 hc
      · have hkept := Text.dropEndWhile_append_of_neg hfalse more []
        rw [List.nil_append, List.nil_append] at hkept
        rw [hkept, adjoining_cons, if_neg hc]
        rfl

/-- The name of the column that words declare is their first one, without its marks. -/
theorem columnOfWords?_name (first : List Char) (rest : List (List Char)) :
    (columnOfWords? (first :: rest)).map (·.name) =
      if isOneOf elementWords first then none else some (String.ofList (unquoted first)) := by
  rw [columnOfWords?]
  split
  · rfl
  · dsimp only
    split <;> rfl

/-- What is read of an element that starts with one word. -/
theorem exists_read_word {gap n : List Char} (hgap : ∀ c ∈ gap, isBlank c = true)
    (h : OnePart isBlank n) (ht : IsTrimmed n) (b : List Char) :
    ∃ r, r.head? = adjoining b ∧
      (columnOf? (trim (gap ++ n ++ b))).map (·.name) =
        if isOneOf elementWords (n ++ r) then none
        else some (String.ofList (unquoted (n ++ r))) := by
  obtain ⟨r, rest, hparts, hr⟩ := exists_first_word h ht (dropEndWhile isBlank b)
  refine ⟨r, hr.trans (adjoining_dropEndWhile b), ?_⟩
  rw [ht.trim_append hgap, columnOf?, hparts, columnOfWords?_name]

/-! ### Columns and clauses -/

/-- A column of a column list: white space, its name, and what stands behind that. -/
structure SpelledColumn where
  gap : List Char
  name : SpelledName
  behind : List Char
  gap_blank : ∀ c ∈ gap, isBlank c = true
  held : name.HeldInList
  whole : Whole (· == ',') (name.text ++ behind)

/-- An element of a column list that declares no column: white space, a word kept for such elements
in letters of either case, and what stands behind that. -/
structure SpelledClause where
  gap : List Char
  word : List Char
  behind : List Char
  gap_blank : ∀ c ∈ gap, isBlank c = true
  kept : ∃ w ∈ elementWords, sameLetters w.toList word = true
  ends : ∀ c ∈ behind.head?, isUnmarked c = false
  whole : Whole (· == ',') (word ++ behind)

/-- An element of a column list. -/
inductive SpelledElement where
  | column (c : SpelledColumn)
  | clause (k : SpelledClause)

namespace SpelledElement

/-- An element as it is spelled. -/
def text : SpelledElement → List Char
  | column c => c.gap ++ c.name.text ++ c.behind
  | clause k => k.gap ++ k.word ++ k.behind

/-- The name of the column that an element is meant to declare. -/
def written? : SpelledElement → Option String
  | column c => some c.name.name
  | clause _ => none

/-- The name of the column that is read of an element. -/
def read? (e : SpelledElement) : Option String :=
  (columnOf? (trim e.text)).map (·.name)

/-- What starts an element stands out from what follows: nothing adjoins the name of a column, and a
plain name is not one of the words kept for clauses; nothing but an opening parenthesis adjoins the
word of a clause. -/
def StandsOut : SpelledElement → Prop
  | column c => adjoining c.behind = none ∧ ¬c.name.IsElementWord
  | clause k => adjoining k.behind = none ∨ adjoining k.behind = some '('

instance : DecidablePred StandsOut
  | column c => inferInstanceAs (Decidable (adjoining c.behind = none ∧ ¬c.name.IsElementWord))
  | clause k =>
    inferInstanceAs (Decidable (adjoining k.behind = none ∨ adjoining k.behind = some '('))

end SpelledElement

theorem SpelledColumn.exists_read (c : SpelledColumn) :
    ∃ r, r.head? = adjoining c.behind ∧ (SpelledElement.column c).read? =
      if isOneOf elementWords (c.name.text ++ r) then none
      else some (String.ofList (unquoted (c.name.text ++ r))) :=
  exists_read_word c.gap_blank c.held.whole.onePart c.name.isTrimmed c.behind

namespace SpelledClause

variable (k : SpelledClause)

theorem word_ne_nil : k.word ≠ [] :=
  (letters_of_elementWord k.kept).1

theorem word_unmarked : ∀ c ∈ k.word, isUnmarked c = true := fun c hc =>
  isUnmarked_of_isAsciiLetter ((letters_of_elementWord k.kept).2 c hc)

/-- The word of a clause is no quotation, whatever adjoins it. -/
theorem unquoted_word (r : List Char) :
    unquoted (k.word ++ r) = k.word ++ r ∧ isQuotedWord (k.word ++ r) = false := by
  obtain ⟨c, cs, hword⟩ := List.exists_cons_of_ne_nil k.word_ne_nil
  have hc : isUnmarked c = true := k.word_unmarked c (hword ▸ List.mem_cons_self)
  rw [hword]
  exact ⟨unquoted_unmarked hc _, isQuotedWord_unmarked hc _⟩

/-- **A clause is known by its word** if nothing but an opening parenthesis adjoins that. -/
theorem isOneOf_word_iff {r : List Char} (hr : ∀ d ∈ r.head?, isUnmarked d = false) :
    isOneOf elementWords (k.word ++ r) = true ↔ ∀ d ∈ r.head?, d = '(' := by
  rw [isOneOf_iff, and_iff_right (k.unquoted_word r).2]
  constructor
  · intro h d hd
    by_contra hopen
    obtain ⟨rest, rfl⟩ := List.head?_eq_some_iff.1 hd
    -- the character that adjoins is one of the letters then
    have hletters := (letters_of_elementWord h).2
    have hword : ∀ c ∈ k.word, (c != '(') = true := fun c hc =>
      bne_iff_ne.2 (Text.ne_of_class (by decide) (k.word_unmarked c hc))
    rw [List.takeWhile_append_of_pos hword, List.takeWhile_cons_of_pos (by simpa using hopen)]
      at hletters
    have hd' : isUnmarked d = true :=
      isUnmarked_of_isAsciiLetter (hletters d (List.mem_append_right _ List.mem_cons_self))
    rw [hr d rfl] at hd'
    cases hd'
  · intro h
    rw [takeWhile_unmarked k.word_unmarked h]
    exact k.kept

theorem exists_read : ∃ r, r.head? = adjoining k.behind ∧
    (∀ d ∈ r.head?, isUnmarked d = false) ∧ (SpelledElement.clause k).read? =
      if isOneOf elementWords (k.word ++ r) then none else some (String.ofList (k.word ++ r)) := by
  have hwhole : Whole isBlank k.word :=
    whole_of_unmarked (fun _ => isBlank_of_isUnmarked) k.word_unmarked
  obtain ⟨r, hr, hread⟩ := exists_read_word k.gap_blank hwhole.onePart
    (isTrimmed_of_unmarked k.word_ne_nil k.word_unmarked) k.behind
  refine ⟨r, hr, fun d hd => ?_, ?_⟩
  · rw [hr] at hd
    exact k.ends d (head?_of_adjoining hd)
  · rw [(k.unquoted_word r).1] at hread
    exact hread

end SpelledClause

/-! ### What is read of an element -/

namespace SpelledElement

/-- **An element is read as it was meant where it stands out**, and nowhere else. -/
theorem read?_eq_iff (e : SpelledElement) : e.read? = e.written? ↔ e.StandsOut := by
  cases e with
  | column c =>
    obtain ⟨r, hr, hread⟩ := c.exists_read
    rw [hread, written?, StandsOut, ← hr]
    constructor
    · intro h
      by_cases hone : isOneOf elementWords (c.name.text ++ r) = true
      · rw [if_pos hone] at h
        cases h
      · rw [if_neg hone] at h
        have hname : unquoted (c.name.text ++ r) = c.name.name.toList := by
          rw [← Option.some.inj h, String.toList_ofList]
        have hnil : r = [] := by
          by_contra hne
          have hlonger := (c.name.unquoted_append hne).2
          rw [hname] at hlonger
          exact absurd hlonger (Nat.lt_irrefl _)
        rw [hnil, List.append_nil] at hone
        exact ⟨by rw [hnil]; rfl, fun hword => hone (c.name.isOneOf_text_iff.2 hword)⟩
    · rintro ⟨hnone, hword⟩
      obtain rfl := List.head?_eq_none_iff.1 hnone
      rw [List.append_nil, if_neg fun hone => hword (c.name.isOneOf_text_iff.1 hone),
        c.name.unquoted_text, String.ofList_toList]
  | clause k =>
    obtain ⟨r, hr, hends, hread⟩ := k.exists_read
    have hopen : (∀ d ∈ r.head?, d = '(') ↔ r.head? = none ∨ r.head? = some '(' := by
      cases r.head? <;> simp
    rw [hread, written?, StandsOut, ← hr, ← hopen, ← k.isOneOf_word_iff hends]
    simp

/-! ### A whole list

A clause that is taken for a column could make up for a column that is passed over, if only numbers
were compared. But it brings a character into the names that no plain name holds, and only plain names
are passed over. -/

/-- The number of characters that a name can only hold between marks. -/
def markCount (name : String) : Nat :=
  name.toList.countP fun c => !isUnmarked c

/-- The reader loses no character that needs marks. -/
theorem markCount_le (e : SpelledElement) :
    e.written?.elim 0 markCount ≤ e.read?.elim 0 markCount := by
  cases e with
  | clause k => exact Nat.zero_le _
  | column c =>
    obtain ⟨r, -, hread⟩ := c.exists_read
    rw [hread]
    by_cases hone : isOneOf elementWords (c.name.text ++ r) = true
    · have hplain := (c.name.word (c.name.plain_of_isOneOf hone)).2
      have hzero : markCount c.name.name = 0 :=
        List.countP_eq_zero.2 fun d hd => by simp [hplain d hd]
      exact le_of_eq_of_le hzero (Nat.zero_le _)
    · rw [if_neg hone]
      show markCount c.name.name ≤ markCount (String.ofList (unquoted (c.name.text ++ r)))
      unfold markCount
      rw [String.toList_ofList]
      by_cases hr : r = []
      · rw [hr, List.append_nil, c.name.unquoted_text]
      · exact (c.name.unquoted_append hr).1.countP_le

/-- A clause that is taken for a column brings such a character with it. -/
theorem markCount_pos {e : SpelledElement} (h : e.written? = none) {name : String}
    (hname : e.read? = some name) : 0 < markCount name := by
  cases e with
  | column c => cases h
  | clause k =>
    obtain ⟨r, -, hends, hread⟩ := k.exists_read
    by_cases hone : isOneOf elementWords (k.word ++ r) = true
    · rw [hread, if_pos hone] at hname
      cases hname
    · rw [hread, if_neg hone] at hname
      have hsome : ∃ d, r.head? = some d := by
        by_contra hnone
        refine hone ((k.isOneOf_word_iff hends).2 fun d hd => ?_)
        exact absurd ⟨d, hd⟩ hnone
      obtain ⟨d, hd⟩ := hsome
      obtain ⟨rest, rfl⟩ := List.head?_eq_some_iff.1 hd
      rw [← Option.some.inj hname, markCount, String.toList_ofList]
      refine List.countP_pos_iff.2 ⟨d, List.mem_append_right _ List.mem_cons_self, ?_⟩
      simp [hends d rfl]

/-- The characters of all names together are those of the names element by element. -/
theorem sum_markCount (f : SpelledElement → Option String) : ∀ es : List SpelledElement,
    ((es.filterMap f).map markCount).sum = (es.map fun e => (f e).elim 0 markCount).sum
  | [] => rfl
  | e :: es => by
    have ih := sum_markCount f es
    cases hf : f e with
    | none => rw [List.filterMap_cons_none hf, ih]; simp [hf]
    | some name => rw [List.filterMap_cons_some hf]; simp [hf, ih]

/-- Where the names that are read are those that were meant, every clause is passed over. -/
theorem read?_of_clause {es : List SpelledElement} (h : es.filterMap read? = es.filterMap written?)
    {e : SpelledElement} (he : e ∈ es) (hnone : e.written? = none) : e.read? = none := by
  by_contra hsome
  obtain ⟨name, hname⟩ := Option.ne_none_iff_exists'.1 hsome
  have hmore : e.written?.elim 0 markCount < e.read?.elim 0 markCount := by
    rw [hnone, hname]
    exact markCount_pos hnone hname
  have hlt := List.sum_lt_sum _ _ (fun a _ => markCount_le a) ⟨e, he, hmore⟩
  rw [← sum_markCount, ← sum_markCount, h] at hlt
  exact absurd hlt (Nat.lt_irrefl _)

/-- Names that are read of columns only, and are all of those that were meant, are read column by
column. -/
theorem read?_eq_of_filterMap : ∀ {es : List SpelledElement},
    (∀ e ∈ es, e.written? = none → e.read? = none) →
      es.filterMap read? = es.filterMap written? → ∀ e ∈ es, e.read? = e.written?
  | [], _, _ => List.forall_mem_nil _
  | e :: es, hnone, h => by
    obtain ⟨he, hes⟩ := List.forall_mem_cons.1 hnone
    have hle : (es.filterMap read?).length ≤ (es.filterMap written?).length := by
      rw [List.length_filterMap_eq_countP, List.length_filterMap_eq_countP]
      refine List.countP_mono_left fun a ha hread => ?_
      by_contra hwritten
      have hpassed : a.read? = none := hes a ha (by simpa using hwritten)
      simp [hpassed] at hread
    cases hw : e.written? with
    | none =>
      rw [List.filterMap_cons_none (he hw), List.filterMap_cons_none hw] at h
      exact List.forall_mem_cons.2 ⟨by rw [he hw, hw], read?_eq_of_filterMap hes h⟩
    | some name =>
      rw [List.filterMap_cons_some hw] at h
      cases hr : e.read? with
      | none =>
        -- a column that is passed over leaves too few names
        rw [List.filterMap_cons_none hr] at h
        rw [h, List.length_cons] at hle
        omega
      | some read =>
        rw [List.filterMap_cons_some hr] at h
        obtain ⟨hhead, htail⟩ := List.cons.inj h
        exact List.forall_mem_cons.2 ⟨by rw [hr, hw, hhead], read?_eq_of_filterMap hes htail⟩

/-- **A column list is read as it was meant where every element stands out**, and nowhere else. -/
theorem filterMap_read_eq_iff (es : List SpelledElement) :
    es.filterMap read? = es.filterMap written? ↔ ∀ e ∈ es, e.StandsOut := by
  constructor
  · intro h e he
    have hall := read?_eq_of_filterMap (fun a ha hnone => read?_of_clause h ha hnone) h
    exact e.read?_eq_iff.1 (hall e he)
  · intro h
    exact List.filterMap_congr fun e he => e.read?_eq_iff.2 (h e he)

/-- A column with a plain name that is kept for clauses is passed over, and a clause is taken for a
column. -/
example : ["period int", "CONSTRAINT\"k\" UNIQUE"].map (fun t => columnOf? t.toList) =
    [none, some ⟨"CONSTRAINT\"k\"", none⟩] := by
  decide +kernel

end SpelledElement

end Script
end SchemaMap
