/-
# Which lines of a table are passed over without a trace

A line of an open table leaves a trace if it adds a column, chooses a schema, opens or closes a table,
or is noted with its number. Lines that are read as keys or as silent leave none, since the scan behind
them is the scan before, and no other line is noted with their numbers; every other line leaves one
(`traced_iff_kind`).

Silent are lines that start with one of some words, and the test does not look at what follows the
word. So a name that only begins like such a word is passed over, too, unless the line is in the
shape of a column (`DumpLine.Overlooked`). No line that says something is lost otherwise
(`line_traced_iff`).

Key definitions: `DumpLine.leadingName`, `DumpLine.Overlooked`, `MySql.Traced`.
Key theorems: `DumpLine.ofText_silent_or_key_iff`, `MySql.traced_iff_kind`,
`MySql.line_traced_iff`.
-/
import SchemaMap.Proofs.Reader.QuotedColumns
import SchemaMap.Proofs.Text.Occurrence

namespace SchemaMap
namespace DumpLine

open Text

/-! ### What a line starts with -/

/-- The characters of a name that is written without quotes. -/
def isNameChar (c : Char) : Bool :=
  isWord c || isAlphanumeric c || c == '$'

/-- The longest name that a text starts with, which is empty if a quote stands in front of it. -/
def leadingName (cs : List Char) : List Char :=
  cs.takeWhile isNameChar

/-- The words of keys and constraints, and `ENGINE`, in any case. -/
def IsSectionWord (name : List Char) : Prop :=
  ∃ w ∈ "ENGINE" :: keyWords, sameLetters w.toList name = true

instance (name : List Char) : Decidable (IsSectionWord name) :=
  inferInstanceAs (Decidable (∃ w ∈ "ENGINE" :: keyWords, sameLetters w.toList name = true))

/-- A comment line. -/
def IsComment (cs : List Char) : Prop :=
  ∃ mark ∈ ["--", "#", "/*"], mark.toList <+: cs

instance (cs : List Char) : Decidable (IsComment cs) :=
  inferInstanceAs (Decidable (∃ mark ∈ ["--", "#", "/*"], mark.toList <+: cs))

/-- A text that starts with a word that is no column, in any case and whatever follows it, and whose
first word has no type. -/
def Overlooked (cs : List Char) : Prop :=
  (∃ w ∈ bodyWords, w.toList <+: cs.map asciiUpper) ∧ ¬∃ w, HasType w cs

theorem HasType.head?_ne_quote {w cs : List Char} (h : HasType w cs) : cs.head? ≠ some '`' := by
  obtain ⟨tick, gap, c, rest, rfl, hw, hword, -⟩ := h
  obtain ⟨d, ds, rfl⟩ := List.exists_cons_of_ne_nil hw
  intro hquote
  have hd : d ≠ '`' := ne_of_class (by decide) (hword d List.mem_cons_self)
  exact hd (Option.some.inj hquote)

theorem skipChar_of_head?_ne {c : Char} {cs : List Char} (h : cs.head? ≠ some c) :
    skipChar c cs = cs := by
  cases cs with
  | nil => rfl
  | cons d ds => exact skipChar_of_ne (fun hd => h (congrArg some hd)) ds

/-- Without a back quote in front, a column is a word with a type. -/
theorem columnShape?_isSome_iff {cs : List Char} (hquote : cs.head? ≠ some '`') :
    (columnShape? cs).isSome = true ↔ ∃ w, HasType w cs := by
  rw [Option.isSome_iff_exists]
  constructor
  · rintro ⟨⟨quoted, name⟩, h⟩
    obtain ⟨-, w, hw, -⟩ := columnShape?_eq_some_iff.1 h
    rw [skipChar_of_head?_ne hquote] at hw
    exact ⟨w, hw⟩
  · rintro ⟨w, hw⟩
    have hshape : columnShape? cs = some (decide (cs.head? = some '`'), String.ofList w) := by
      refine columnShape?_eq_some_iff.2 ⟨rfl, w, ?_, rfl⟩
      rw [skipChar_of_head?_ne hquote]
      exact hw
    exact ⟨_, hshape⟩

theorem isNameChar_of_isBlank {c : Char} (h : isBlank c = true) : isNameChar c = false :=
  class_of_isBlank (by decide +kernel) h

/-- A word that has a type is all of the name that the text starts with. -/
theorem HasType.leadingName_eq {w cs : List Char} (h : HasType w cs) : leadingName cs = w := by
  obtain ⟨tick, gap, c, rest, rfl, hw, hword, htick, hgap, hblank, -⟩ := h
  have hname : ∀ d ∈ w, isNameChar d = true := fun d hd => by simp [isNameChar, hword d hd]
  have hend : ∀ d ∈ (tick ++ (gap ++ c :: rest)).head?, isNameChar d = false :=
    head?_behind_word htick hgap hblank (by decide) fun d => isNameChar_of_isBlank
  exact (run?_eq_takeWhile (run?_append hw hname hend)).1

/-! ### Lines that start with a word that is no column -/

theorem bodyWords_isAscii : ∀ w ∈ bodyWords, ∀ c ∈ w.toList, c.toNat < 128 := by
  have hall : ∀ w ∈ bodyWords, w.toList.all (fun c => decide (c.toNat < 128)) = true := by decide
  exact fun w hw => forall_mem_of_all (hall w hw)

/-- A text that starts with such a word starts with a letter. -/
theorem exists_letter_of_bodyWord {w : String} (hw : w ∈ bodyWords) {cs : List Char}
    (h : w.toList <+: cs.map asciiUpper) : ∃ c rest, cs = c :: rest ∧ isAsciiLetter c = true := by
  have hfirst : ∀ w ∈ bodyWords, w.toList.head?.any isAsciiLetter = true := by decide
  obtain ⟨d, hd, hletter⟩ := (Option.any_eq_true _ _).1 (hfirst w hw)
  obtain ⟨ds, hds⟩ := List.head?_eq_some_iff.1 hd
  cases cs with
  | nil => simp [hds] at h
  | cons c rest =>
    rw [hds, List.map_cons, List.cons_prefix_cons] at h
    exact ⟨c, rest, rfl, isAsciiLetter_of_asciiUpper (h.1 ▸ hletter)⟩

/-- The upper case form of a character is in ASCII only if the character is. -/
theorem caseFold_of_asciiUpper {c : Char} (h : (asciiUpper c).toNat < 128) :
    caseFold c = asciiUpper c := by
  have hlong : ¬(c == '\u017f') = true := by
    intro hc
    rw [beq_iff_eq.1 hc] at h
    exact absurd h (by decide)
  have hkelvin : ¬(c == '\u212a') = true := by
    intro hc
    rw [beq_iff_eq.1 hc] at h
    exact absurd h (by decide)
  rw [caseFold, if_neg hlong, if_neg hkelvin]

theorem prefix_map_caseFold : ∀ {w cs : List Char}, (∀ c ∈ w, c.toNat < 128) →
    w <+: cs.map asciiUpper → w <+: cs.map caseFold
  | [], _, _, _ => List.nil_prefix
  | d :: w, [], _, h => by simp at h
  | d :: w, c :: cs, hascii, h => by
    rw [List.map_cons, List.cons_prefix_cons] at h ⊢
    obtain ⟨rfl, hw⟩ := h
    have ih := prefix_map_caseFold (fun e he => hascii e (List.mem_cons_of_mem _ he)) hw
    exact ⟨(caseFold_of_asciiUpper (hascii _ List.mem_cons_self)).symm, ih⟩

/-- A text that starts with such a word chooses no schema and opens no table. -/
theorem shapes_of_bodyWord {w : String} (hw : w ∈ bodyWords) {cs : List Char}
    (h : w.toList <+: cs.map asciiUpper) : useShape? cs = none ∧ createShape? cs = none := by
  have hapart : ∀ w ∈ bodyWords, ∀ v ∈ ["USE", "CREATE"],
      ¬w.toList <+: v.toList ∧ ¬v.toList <+: w.toList := by decide
  -- of two words that one text starts with, the shorter starts the longer
  have hnone {v : String} (hv : v ∈ ["USE", "CREATE"]) (more : List String) :
      keywords? (v :: more) cs = none := by
    cases hread : keyword? v.toList cs with
    | none => rw [keywords?, hread, Option.bind_none]
    | some r =>
      obtain ⟨front, rfl, hfront⟩ := keyword?_eq_some hread
      have hfold := prefix_map_caseFold (bodyWords_isAscii w hw) h
      have hvFold : v.toList <+: (front ++ r).map caseFold := by
        rw [List.map_append, hfront]
        exact List.prefix_append _ _
      rcases List.prefix_or_prefix_of_prefix hfold hvFold with hpre | hpre
      · exact absurd hpre (hapart w hw v hv).1
      · exact absurd hpre (hapart w hw v hv).2
  constructor
  · rw [useShape?, hnone (by decide)]
    rfl
  · rw [createShape?, createHead?, hnone (by decide)]
    rfl

theorem isSilent_iff {cs : List Char} : isSilent cs = true ↔
    cs = [] ∨ IsComment cs ∨ ∃ w ∈ bodyWords, w.toList <+: cs.map asciiUpper := by
  simp only [isSilent, Bool.or_eq_true, List.isEmpty_iff, after?_isSome, List.any_eq_true,
    IsComment, List.mem_cons, List.not_mem_nil, or_false, exists_eq_or_imp, exists_eq_left, or_assoc]
  rfl

/-- Overlooked lines are silent. -/
theorem Overlooked.ofText_eq {cs : List Char} (h : Overlooked cs) : ofText cs = .silent := by
  obtain ⟨⟨w, hw, hpre⟩, hno⟩ := h
  obtain ⟨huse, hcreate⟩ := shapes_of_bodyWord hw hpre
  obtain ⟨c, rest, rfl, hletter⟩ := exists_letter_of_bodyWord hw hpre
  have hparen : c ≠ ')' := ne_of_class (by decide) hletter
  have hquote : c ≠ '`' := ne_of_class (by decide) hletter
  have hshape : columnShape? (c :: rest) = none := by
    rw [← Option.not_isSome_iff_eq_none, columnShape?_isSome_iff (by simpa using hquote)]
    exact hno
  have hsilent : isSilent (c :: rest) = true := isSilent_iff.2 (.inr (.inr ⟨w, hw, hpre⟩))
  have hhead : (c :: rest).head? ≠ some ')' := fun he => hparen (Option.some.inj he)
  rw [ofText, huse, hcreate, hshape]
  simp only [if_neg hhead, hsilent, if_true]

theorem ofText_eq_silent {cs : List Char} (h : ofText cs = .silent) :
    columnShape? cs = none ∧ isSilent cs = true := by
  unfold ofText at h
  split at h
  · cases h
  split at h
  · cases h
  split at h
  · split at h <;> cases h
  split at h
  · cases h
  split at h
  · exact ⟨‹_›, ‹_›⟩
  · cases h

theorem ofText_eq_key {cs : List Char} (h : ofText cs = .key) :
    ∃ name, columnShape? cs = some (false, name) ∧
      ∃ w ∈ keyWords, sameLetters w.toList name.toList = true := by
  unfold ofText at h
  split at h
  · cases h
  split at h
  · cases h
  split at h
  · rename_i quoted name hshape
    split at h
    · rename_i hkey
      rw [Bool.and_eq_true, Bool.not_eq_true', List.any_eq_true] at hkey
      exact ⟨name, hkey.1 ▸ hshape, hkey.2⟩
    · cases h
  split at h
  · cases h
  split at h
  · cases h
  · cases h

/-- **A line that says something is read as a key or as silent** just where it is overlooked, if it is
no comment and does not start with the word of a key or constraint. -/
theorem ofText_silent_or_key_iff {cs : List Char} (hne : cs ≠ []) (hcomment : ¬IsComment cs)
    (hlead : ¬IsSectionWord (leadingName cs)) :
    (ofText cs = .silent ∨ ofText cs = .key) ↔ Overlooked cs := by
  constructor
  · rintro (hsilent | hkey)
    · obtain ⟨hshape, hsays⟩ := ofText_eq_silent hsilent
      rcases isSilent_iff.1 hsays with hnil | hmark | hword
      · exact absurd hnil hne
      · exact absurd hmark hcomment
      · refine ⟨hword, fun ⟨v, hv⟩ => ?_⟩
        have hsome := (columnShape?_isSome_iff hv.head?_ne_quote).2 ⟨v, hv⟩
        rw [hshape] at hsome
        cases hsome
    · -- the name of the shape is all that the line starts with
      obtain ⟨name, hshape, w, hw, hsame⟩ := ofText_eq_key hkey
      obtain ⟨hquote, v, hv, rfl⟩ := columnShape?_eq_some_iff.1 hshape
      rw [skipChar_of_head?_ne (of_decide_eq_false hquote.symm)] at hv
      rw [String.toList_ofList, ← hv.leadingName_eq] at hsame
      exact absurd ⟨w, List.mem_cons_of_mem _ hw, hsame⟩ hlead
  · exact fun h => .inl h.ofText_eq

end DumpLine

namespace MySql

open Text DumpLine

/-! ### The trace of a line -/

/-- What the line at the place `i` leaves behind: a column of the open table, a chosen schema, a
table that it opens or closes, or a note with its number. -/
inductive Traced (cs : List Char) (i : Nat) (x : Extraction) : Prop where
  | column {o : OpenTable} {name : String} :
      (scanBefore cs i).current = some o →
      (scanBefore cs (i + 1)).current =
        some { o with table := { o.table with columns := o.table.columns ++ [name] } } →
      Traced cs i x
  | schema {raw : List Char} {schema : String} :
      (lines cs)[i]? = some raw → ofText (trim raw) = .use schema →
      (scanBefore cs (i + 1)).currentSchema = schema → Traced cs i x
  | opened {schema name : String} :
      (scanBefore cs (i + 1)).current = some ⟨⟨schema, name, []⟩, i + 1⟩ → Traced cs i x
  | closed : (scanBefore cs i).current.isSome = true → (scanBefore cs (i + 1)).current = none →
      Traced cs i x
  | noted {message : String} : Diagnostic.at (i + 1) message ∈ x.diagnostics → Traced cs i x

section Line

variable {cs raw : List Char} {i : Nat}

/-- Lines before a line are not noted with its number. -/
theorem notesOn_scanBefore (hi : i ≤ (lines cs).length) :
    (scanBefore cs i).NotesOn (· ≠ i + 1) := by
  have hstart : ({} : Scan).NotesOn (· ≠ i + 1) := by
    refine ⟨fun d hd => ?_, fun o ho => ?_⟩
    · cases hd
    · cases ho
  refine hstart.takeAll _ ?_
  intro j hj
  rw [List.length_take_of_le hi] at hj
  omega

/-- A line that changes nothing leaves no trace, since no other line is noted with its number. -/
theorem not_traced_of_unchanged (hline : (lines cs)[i]? = some raw)
    (hsame : scanBefore cs (i + 1) = scanBefore cs i)
    (huse : ∀ schema, ofText (trim raw) ≠ .use schema) : ¬Traced cs i (read cs) := by
  obtain ⟨hi, -⟩ := List.getElem?_eq_some_iff.1 hline
  have hbefore : (scanBefore cs i).NotesOn (· ≠ i + 1) := notesOn_scanBefore hi.le
  intro htraced
  cases htraced with
  | column ho hadded =>
    rw [hsame, ho] at hadded
    have hcolumns := congrArg (fun o : OpenTable => o.table.columns) (Option.some.inj hadded)
    exact absurd hcolumns (by simp)
  | schema hraw hkind _ =>
    obtain rfl := Option.some.inj (hline.symm.trans hraw)
    exact huse _ hkind
  | opened ho =>
    rw [hsame] at ho
    exact hbefore.opened _ ho rfl
  | closed hopen hnone =>
    rw [hsame] at hnone
    rw [hnone] at hopen
    cases hopen
  | noted hnote =>
    have hafter : ((scanBefore cs (i + 1)).takeAll (i + 1 + 1) ((lines cs).drop (i + 1))).NotesOn
        (· ≠ i + 1) := by
      rw [hsame]
      exact Scan.NotesOn.takeAll _ hbefore fun j _ => by omega
    rw [read_eq_scanBefore cs hi] at hnote
    exact hafter.finish _ hnote (i + 1) rfl rfl

/-- **Which lines of an open table leave a trace**: all but those that are read as keys or as
silent. -/
theorem traced_iff_kind (hline : (lines cs)[i]? = some raw)
    (hopen : (scanBefore cs i).current.isSome = true) :
    Traced cs i (read cs) ↔ ¬(ofText (trim raw) = .silent ∨ ofText (trim raw) = .key) := by
  obtain ⟨hi, -⟩ := List.getElem?_eq_some_iff.1 hline
  have hnext := scanBefore_succ hline
  obtain ⟨o, ho⟩ := Option.isSome_iff_exists.1 hopen
  cases hkind : ofText (trim raw) with
  | use schema =>
    rw [hkind] at hnext
    refine iff_of_true (.schema hline hkind ?_) (by simp)
    rw [hnext]
    rfl
  | create qualifier name =>
    rw [hkind] at hnext
    have hopened : (scanBefore cs (i + 1)).current =
        some ⟨⟨qualifier.getD (scanBefore cs i).currentSchema, name, []⟩, i + 1⟩ := by
      rw [hnext]
      cases qualifier with
      | none => exact (Scan.openTable_spec _ _ _).2.1
      | some schema => exact (Scan.openTable_spec _ _ _).2.1
    exact iff_of_true (.opened hopened) (by simp)
  | column name =>
    rw [hkind] at hnext
    have hadded : (scanBefore cs (i + 1)).current =
        some { o with table := { o.table with columns := o.table.columns ++ [name] } } := by
      rw [hnext, Scan.take, Scan.addColumn, ho]
    exact iff_of_true (.column ho hadded) (by simp)
  | key =>
    rw [hkind] at hnext
    refine iff_of_false (not_traced_of_unchanged hline hnext ?_) (by simp)
    simp [hkind]
  | close =>
    rw [hkind] at hnext
    refine iff_of_true (.closed hopen ?_) (by simp)
    rw [hnext, Scan.take, if_pos hopen, Scan.close, ho]
  | silent =>
    rw [hkind] at hnext
    refine iff_of_false (not_traced_of_unchanged hline hnext ?_) (by simp)
    simp [hkind]
  | unknown =>
    obtain ⟨key, hkey⟩ := exists_openAfter?_iff.2 hopen
    exact iff_of_true (.noted (note_of_unknown hline hkind hkey)) (by simp)

/-- **Which lines of a table are passed over without a trace.** Of the lines of an open table that are
not blank and no comments, and whose leading name is neither the word of a key or constraint nor
`ENGINE`, those and only those that are overlooked. -/
theorem line_traced_iff (hline : (lines cs)[i]? = some raw)
    (hopen : (scanBefore cs i).current.isSome = true) (hne : trim raw ≠ [])
    (hcomment : ¬IsComment (trim raw)) (hlead : ¬IsSectionWord (leadingName (trim raw))) :
    ∃ x, Driver.mysql.read cs = .ok x ∧ (Traced cs i x ↔ ¬Overlooked (trim raw)) := by
  refine ⟨read cs, rfl, ?_⟩
  rw [traced_iff_kind hline hopen, ofText_silent_or_key_iff hne hcomment hlead]

/-- A dump with a column whose name begins like the word of a key. -/
def keyNoDump : List Char :=
  "CREATE TABLE shop.orders (\n  key_no varchar(40),\n  id INT\n);\n".toList

/-- A name that goes on behind the word with word characters is read as the name of a column. -/
theorem line_traced_keyNo :
    ∃ x, Driver.mysql.read keyNoDump = .ok x ∧ Traced keyNoDump 1 x := by
  have hline : (lines keyNoDump)[1]? = some "  key_no varchar(40),".toList := by decide +kernel
  have hopen : (scanBefore keyNoDump 1).current.isSome = true := by decide +kernel
  have htyped : HasType "key_no".toList (trim "  key_no varchar(40),".toList) :=
    ⟨[], [' '], 'v', "archar(40),".toList, by decide +kernel, by decide +kernel,
      forall_mem_of_all (by decide +kernel), .inl rfl, by decide, by simp [isBlank], by decide⟩
  obtain ⟨x, hread, htraced⟩ :=
    line_traced_iff hline hopen (by decide +kernel) (by decide +kernel) (by decide +kernel)
  exact ⟨x, hread, htraced.2 fun hover => hover.2 ⟨_, htyped⟩⟩

/-- A dump with a dollar sign in the name of a column. -/
def dollarDump : List Char :=
  "CREATE TABLE shop.orders (\n  id INT,\n  key$ varchar(40)\n);\n".toList

/-- The dollar sign ends the word, so the line is not in the shape of a column, and it is silent since
it starts with `KEY`: the column is lost, and nothing is noted. -/
theorem column_passed_over :
    (lines dollarDump)[2]? = some "  key$ varchar(40)".toList ∧
      (scanBefore dollarDump 2).current.isSome = true ∧
      trim "  key$ varchar(40)".toList = "key$ varchar(40)".toList ∧
      ¬IsComment "key$ varchar(40)".toList ∧
      leadingName "key$ varchar(40)".toList = "key$".toList ∧ ¬IsSectionWord "key$".toList ∧
      Driver.mysql.read dollarDump = .ok ⟨[⟨"shop", "orders", [⟨"id", none⟩]⟩], []⟩ ∧
      ¬Traced dollarDump 2 ⟨[⟨"shop", "orders", [⟨"id", none⟩]⟩], []⟩ := by
  have hline : (lines dollarDump)[2]? = some "  key$ varchar(40)".toList := by decide +kernel
  have hopen : (scanBefore dollarDump 2).current.isSome = true := by decide +kernel
  have hkind : ofText (trim "  key$ varchar(40)".toList) = .silent := by decide +kernel
  have hread : read dollarDump = ⟨[⟨"shop", "orders", [⟨"id", none⟩]⟩], []⟩ := by decide +kernel
  refine ⟨hline, hopen, by decide +kernel, by decide +kernel, by decide +kernel, by decide +kernel,
    congrArg Except.ok hread, ?_⟩
  rw [← hread, traced_iff_kind hline hopen, not_not]
  exact .inl hkind

end Line

end MySql
end SchemaMap
