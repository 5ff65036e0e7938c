/-
# Names in back quotes in a MySQL dump

A column may be named by any text in back quotes, but only a run of word characters is read as a
name, and each of the two back quotes is optional. So a name that holds other characters is not read
through to its closing back quote. Most such lines are in the shape of nothing and are noted; but
where white space follows the first word of the name, and behind it a character that may start a type,
the first word is taken for the name and the next for its type (`CutShort`).

Key definitions: `DumpLine.CutShort`, `DumpLine.HasType`.
Key theorems: `DumpLine.columnShape?_eq_some_iff`, `DumpLine.ofText_cutShort`,
`DumpLine.ofText_quotedName`, `MySql.quoted_column_kept_iff`.
-/
import SchemaMap.Proofs.Reader.DumpColumns
import SchemaMap.Proofs.Reader.DumpLayout
import SchemaMap.Proofs.Reader.DumpNotes

namespace SchemaMap
namespace DumpLine

open Text

/-- The name `name` is read as its first word `w`: white space stands behind it, and then what may
start a type. -/
def CutShort (name w : List Char) : Prop :=
  ∃ gap c more, name = w ++ (gap ++ c :: more) ∧ w ≠ [] ∧ (∀ d ∈ w, isWord d = true) ∧
    gap ≠ [] ∧ (∀ d ∈ gap, isBlank d = true) ∧ startsType c = true

theorem CutShort.exists_blank {name w : List Char} (h : CutShort name w) :
    ∃ c ∈ name, isBlank c = true := by
  obtain ⟨gap, c, more, rfl, -, -, hne, hgap, -⟩ := h
  obtain ⟨d, ds, rfl⟩ := List.exists_cons_of_ne_nil hne
  exact ⟨d, by simp, hgap d List.mem_cons_self⟩

theorem CutShort.ne {name w : List Char} (h : CutShort name w) : w ≠ name := by
  obtain ⟨gap, c, more, rfl, -⟩ := h
  simp

theorem isBlank_of_startsType {c : Char} (h : startsType c = true) : isBlank c = false := by
  simp only [startsType, Bool.or_eq_true, beq_iff_eq] at h
  rcases h with (h | rfl) | rfl
  · exact isBlank_of_isWord h
  · decide
  · decide

/-- A text that starts with the word `w` goes on with a back quote or not, white space, and what may
start a type. -/
def HasType (w cs : List Char) : Prop :=
  ∃ tick gap c rest, cs = w ++ (tick ++ (gap ++ c :: rest)) ∧ w ≠ [] ∧
    (∀ d ∈ w, isWord d = true) ∧ (tick = [] ∨ tick = ['`']) ∧ gap ≠ [] ∧
    (∀ d ∈ gap, isBlank d = true) ∧ startsType c = true

theorem exists_skipChar (c : Char) (cs : List Char) :
    ∃ tick, cs = tick ++ skipChar c cs ∧ (tick = [] ∨ tick = [c]) := by
  cases cs with
  | nil => exact ⟨[], rfl, .inl rfl⟩
  | cons d ds =>
    by_cases hd : d = c
    · subst hd
      exact ⟨[d], by simp [skipChar, orSkip, char?], .inr rfl⟩
    · exact ⟨[], by rw [skipChar_of_ne hd, List.nil_append], .inl rfl⟩

/-- What follows the word is in neither case a word character. -/
theorem head?_behind_word {tick gap rest : List Char} {c : Char} (htick : tick = [] ∨ tick = ['`'])
    (hgap : gap ≠ []) (hblank : ∀ d ∈ gap, isBlank d = true) {p : Char → Bool} (hp : p '`' = false)
    (hpblank : ∀ d, isBlank d = true → p d = false) :
    ∀ d ∈ (tick ++ (gap ++ c :: rest)).head?, p d = false := by
  obtain ⟨g, gap, rfl⟩ := List.exists_cons_of_ne_nil hgap
  rcases htick with rfl | rfl
  · exact forall_mem_some (hpblank g (hblank g List.mem_cons_self))
  · exact forall_mem_some hp

/-- **A text is in the shape of a column** if its first word has a type, where a back quote in front
of the word does not count. -/
theorem columnShape?_eq_some_iff {cs : List Char} {quoted : Bool} {name : String} :
    columnShape? cs = some (quoted, name) ↔
      quoted = decide (cs.head? = some '`') ∧
        ∃ w, HasType w (skipChar '`' cs) ∧ name = String.ofList w := by
  constructor
  · intro h
    obtain ⟨⟨n, r⟩, hname, h⟩ := Option.bind_eq_some_iff.1 h
    obtain ⟨t, hblanks, h⟩ := Option.bind_eq_some_iff.1 h
    obtain ⟨_, hguard, h⟩ := Option.bind_eq_some_iff.1 h
    obtain ⟨rfl, rfl⟩ := Prod.mk.inj (Option.some.inj h)
    obtain ⟨⟨w, r'⟩, hrun, hr⟩ := Option.map_eq_some_iff.1 hname
    obtain ⟨rfl, rfl⟩ := Prod.mk.inj hr
    obtain ⟨hw, hword⟩ := run?_eq_some hrun
    obtain ⟨tick, hr', htick⟩ := exists_skipChar '`' r'
    obtain ⟨gap, hgapped, hgap, hblank⟩ := blanks?_eq_some hblanks
    have htype : t.head?.any startsType = true := by
      by_contra hno
      simp [hno] at hguard
    obtain ⟨c, hc, hstarts⟩ := (Option.any_eq_true _ _).1 htype
    obtain ⟨rest, rfl⟩ := List.head?_eq_some_iff.1 hc
    refine ⟨rfl, w, ⟨tick, gap, c, rest, ?_, hw, hword, htick, hgap, hblank, hstarts⟩, rfl⟩
    rw [run?_eq_append hrun, ← hgapped, ← hr']
  · rintro ⟨rfl, w, ⟨tick, gap, c, rest, htext, hw, hword, htick, hgap, hblank, hc⟩, rfl⟩
    have hrun : wordRun? (skipChar '`' cs) = some (w, tick ++ (gap ++ c :: rest)) := by
      rw [htext]
      exact run?_append hw hword
        (head?_behind_word htick hgap hblank (by decide) fun d => isWord_of_isBlank)
    obtain ⟨g, gap, rfl⟩ := List.exists_cons_of_ne_nil hgap
    have hg : isBlank g = true := hblank g List.mem_cons_self
    have hskip : skipChar '`' (tick ++ (g :: gap ++ c :: rest)) = g :: gap ++ c :: rest := by
      rcases htick with rfl | rfl
      · exact skipChar_of_ne (ne_of_class (by decide) hg) _
      · rfl
    have hname : name? cs = some (String.ofList w, g :: gap ++ c :: rest) := by
      rw [name?, hrun, Option.map_some]
      simp only [hskip]
    have hblanks : blanks? (g :: gap ++ c :: rest) = some (c :: rest) := by
      rw [List.cons_append, blanks?, if_pos hg,
        skipBlanks_append fun d hd => hblank d (List.mem_cons_of_mem g hd),
        skipBlanks_of_head (isBlank_of_startsType hc)]
    exact Option.bind_eq_some_iff.2 ⟨_, hname, Option.bind_eq_some_iff.2
      ⟨_, hblanks, Option.bind_eq_some_iff.2 ⟨(), if_pos hc, rfl⟩⟩⟩

theorem columnShape?_cutShort {name w : List Char} (h : CutShort name w) (rest : List Char) :
    columnShape? ('`' :: (name ++ rest)) = some (true, String.ofList w) := by
  obtain ⟨gap, c, more, rfl, hw, hword, hgap, hblank, hc⟩ := h
  refine columnShape?_eq_some_iff.2 ⟨rfl, w, ⟨[], gap, c, more ++ rest, ?_, hw, hword, .inl rfl,
    hgap, hblank, hc⟩, rfl⟩
  have hopen : skipChar '`' ('`' :: (w ++ (gap ++ c :: more) ++ rest)) =
      w ++ (gap ++ c :: more) ++ rest := rfl
  rw [hopen]
  simp

/-- What stands in front of a separator starts with what the whole text starts with, if that holds no
separator. -/
theorem exists_front {sep : Char} {a b w r : List Char} (h : a ++ sep :: b = w ++ r)
    (hw : sep ∉ w) : ∃ v, a = w ++ v ∧ r = v ++ sep :: b := by
  rcases List.append_eq_append_iff.1 h with ⟨v, rfl, hv⟩ | ⟨v, rfl, hv⟩
  · cases v with
    | nil => exact ⟨[], by rw [List.append_nil, List.append_nil], hv.symm⟩
    | cons c v =>
      obtain ⟨rfl, -⟩ := List.cons.inj hv
      exact absurd (List.mem_append_right a List.mem_cons_self) hw
  · exact ⟨v, rfl, hv⟩

/-- A column that is named in back quotes has its own name, or one that is cut short. -/
theorem columnShape?_quoted {name : List Char} (hname : '`' ∉ name) {rest : List Char}
    {quoted : Bool} {n : String}
    (h : columnShape? ('`' :: (name ++ '`' :: rest)) = some (quoted, n)) :
    quoted = true ∧ (n = String.ofList name ∨ ∃ w, CutShort name w ∧ n = String.ofList w) := by
  have hclass (p : Char → Bool) (hp : p '`' = false) {w : List Char} (hw : ∀ c ∈ w, p c = true) :
      '`' ∉ w := fun hm => ne_of_class hp (hw _ hm) rfl
  obtain ⟨rfl, w, ⟨tick, gap, c, more, htext, hw, hword, htick, hgap, hblank, hc⟩, rfl⟩ :=
    columnShape?_eq_some_iff.1 h
  obtain ⟨v, rfl, hbehind⟩ := exists_front htext (hclass isWord (by decide) hword)
  refine ⟨rfl, ?_⟩
  cases v with
  | nil => exact .inl (by rw [List.append_nil])
  | cons d ds =>
    have hd : d ≠ '`' := fun hd => hname (by simp [hd])
    -- the name goes on, so no back quote stands behind its first word
    obtain rfl : tick = [] := by
      rcases htick with htick | htick
      · exact htick
      · rw [htick] at hbehind
        exact absurd (List.cons.inj hbehind).1.symm hd
    rw [List.nil_append] at hbehind
    obtain ⟨u, hu, hrest⟩ := exists_front hbehind.symm (hclass isBlank (by decide) hblank)
    cases u with
    | nil =>
      obtain rfl : c = '`' := (List.cons.inj hrest).1
      exact absurd hc (by decide)
    | cons c' u =>
      obtain rfl : c = c' := (List.cons.inj hrest).1
      exact .inr ⟨w, ⟨gap, c, u, by rw [hu], hw, hword, hgap, hblank, hc⟩, rfl⟩

/-- A line that starts with a back quote is a column, or none of the known kinds. -/
theorem ofText_quote (cs : List Char) :
    ofText ('`' :: cs) =
      match columnShape? ('`' :: cs) with
      | some (quoted, name) =>
        if !quoted && keyWords.any fun w => sameLetters w.toList name.toList then .key
        else .column name
      | none => .unknown := by
  obtain ⟨huse, hcreate⟩ := shapes_of_head (c := '`') (by decide) (by decide) cs
  have hsilent : isSilent ('`' :: cs) = false := rfl
  rw [ofText, huse, hcreate]
  cases columnShape? ('`' :: cs) with
  | none => simp [hsilent]
  | some shape => rfl

/-- A name that is cut short is read so, whatever follows it. -/
theorem ofText_cutShort {name w : List Char} (h : CutShort name w) (rest : List Char) :
    ofText ('`' :: (name ++ rest)) = .column (String.ofList w) := by
  rw [ofText_quote, columnShape?_cutShort h]
  rfl

/-- **A name in back quotes that is not cut short** is read as it is, or its line is none of the known
kinds. -/
theorem ofText_quotedName {name : List Char} (hname : '`' ∉ name) (h : ¬ ∃ w, CutShort name w)
    (rest : List Char) :
    ofText ('`' :: (name ++ '`' :: rest)) = .column (String.ofList name) ∨
      ofText ('`' :: (name ++ '`' :: rest)) = .unknown := by
  rw [ofText_quote]
  cases hshape : columnShape? ('`' :: (name ++ '`' :: rest)) with
  | none => exact .inr rfl
  | some shape =>
    obtain ⟨quoted, n⟩ := shape
    obtain ⟨rfl, rfl | ⟨w, hw, -⟩⟩ := columnShape?_quoted hname hshape
    · exact .inl rfl
    · exact absurd ⟨w, hw⟩ h

end DumpLine

namespace MySql

open Text DumpLine

/-- **Which columns in back quotes keep their names.** A line inside a table that starts with a name
in back quotes, which may hold any characters but back quotes, adds a column of that name or is noted,
just where the name is not cut short. Where it is, the line adds a column of the shorter name. -/
theorem quoted_column_kept_iff {cs raw name rest : List Char} {i : Nat} {key : String × String}
    (hline : (lines cs)[i]? = some raw) (htext : trim raw = '`' :: (name ++ '`' :: rest))
    (hname : '`' ∉ name) (hopen : openAfter? ((kinds cs).take i) = some key) :
    ∃ x, Driver.mysql.read cs = .ok x ∧
      (tableColumns x.tables).Perm
        ((List.range (kinds cs).length).filterMap (added? (kinds cs))) ∧
      ((added? (kinds cs) i = some (key, String.ofList name) ∨
          (added? (kinds cs) i = none ∧ unknownNote i (trim raw) ∈ x.diagnostics)) ↔
        ¬ ∃ w, CutShort name w) ∧
      ∀ w, CutShort name w → added? (kinds cs) i = some (key, String.ofList w) := by
  obtain ⟨x, hread, hcolumns⟩ := read_added cs
  have hx : x = read cs := (Except.ok.inj hread).symm
  have hkind : (kinds cs)[i]? = some (ofText (trim raw)) := by
    rw [kinds, List.getElem?_map, hline, Option.map_some]
  have hshort (w : List Char) (hw : CutShort name w) :
      added? (kinds cs) i = some (key, String.ofList w) := by
    refine added?_eq_some.2 ⟨?_, hopen⟩
    rw [hkind, htext, ofText_cutShort hw]
  refine ⟨x, hread, hcolumns, ?_, hshort⟩
  constructor
  · rintro hkept ⟨w, hw⟩
    rcases hkept with hadded | ⟨hnone, -⟩
    · rw [hshort w hw] at hadded
      have hnames : String.ofList w = String.ofList name :=
        congrArg Prod.snd (Option.some.inj hadded)
      exact hw.ne (String.ofList_injective hnames)
    · rw [hshort w hw] at hnone
      cases hnone
  · intro hwhole
    rcases ofText_quotedName hname hwhole rest with hcolumn | hunknown
    · exact .inl (added?_eq_some.2 ⟨by rw [hkind, htext, hcolumn], hopen⟩)
    · rw [← htext] at hunknown
      refine .inr ⟨added?_eq_none.2 fun c hc => ?_, ?_⟩
      · rw [hkind, hunknown] at hc
        cases hc
      · rw [hx]
        exact note_of_unknown hline hunknown hopen

/-- A dump with a hyphen in the name of a column. -/
def hyphenDump : List Char :=
  "CREATE TABLE shop.orders (\n  `first-name` varchar(40),\n  `id` int\n);\n".toList

theorem quoted_column_kept_hyphen :
    ∃ x, Driver.mysql.read hyphenDump = .ok x ∧ added? (kinds hyphenDump) 1 = none ∧
      unknownNote 1 "`first-name` varchar(40),".toList ∈ x.diagnostics := by
  have hline : (lines hyphenDump)[1]? = some "  `first-name` varchar(40),".toList := by
    decide +kernel
  have htext : trim "  `first-name` varchar(40),".toList =
      '`' :: ("first-name".toList ++ '`' :: " varchar(40),".toList) := by
    decide +kernel
  have hname : '`' ∉ "first-name".toList := by decide
  have hopen : openAfter? ((kinds hyphenDump).take 1) = some ("shop", "orders") := by
    decide +kernel
  have hwhole : ¬ ∃ w, CutShort "first-name".toList w := by
    rintro ⟨w, hw⟩
    have hnone : ∀ c ∈ "first-name".toList, isBlank c = false :=
      forall_mem_of_all (by decide)
    obtain ⟨c, hc, hblank⟩ := hw.exists_blank
    rw [hnone c hc] at hblank
    cases hblank
  obtain ⟨x, hread, -, hkept, -⟩ := quoted_column_kept_iff hline htext hname hopen
  refine ⟨x, hread, ?_⟩
  rcases hkept.2 hwhole with hadded | hnoted
  · exact absurd hadded (by decide +kernel)
  · exact hnoted

/-- A dump with a blank in the name of a column. -/
def blankDump : List Char :=
  "CREATE TABLE shop.orders (\n  `first name` varchar(40)\n);\n".toList

/-- The line adds a column that is named by the first word, and nothing is noted. -/
theorem quoted_name_cut_short :
    (lines blankDump)[1]? = some "  `first name` varchar(40)".toList ∧
      added? (kinds blankDump) 1 = some (("shop", "orders"), "first") ∧
      read blankDump = ⟨[⟨"shop", "orders", [⟨"first", none⟩]⟩], []⟩ ∧
      Driver.mysql.read blankDump = .ok (read blankDump) :=
  ⟨by decide +kernel, by decide +kernel, by decide +kernel, rfl⟩

end MySql
end SchemaMap
