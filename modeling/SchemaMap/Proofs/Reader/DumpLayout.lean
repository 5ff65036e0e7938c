/-
# The layout of a MySQL dump

A dump is written from its tables. Each table is headed by a `CREATE TABLE` line that gives its
schema, or by a `USE` line and a `CREATE TABLE` line behind it; then come its columns, one on a
line, its keys and constraints, and a line with a closing parenthesis. Between tables, and in
front of a header, there are blank lines and comments. Any line may have white space around it.

What such a line was written for is what is read from it (`Line.says`): no name is taken for a
keyword in its back quotes, and no key for a column.

Key definitions: `Dump.Entry`, `Dump.Line`, `Dump.Block`, `Dump.entries`, `Dump.text`.
Key theorems: `DumpLine.ofText_column`, `DumpLine.ofText_key`, `Dump.Line.says`,
`Dump.splitOn_text`.
-/
import SchemaMap.Reader.MySql
import SchemaMap.Proofs.Reader.DumpNames
import SchemaMap.Proofs.Text.Lines

namespace SchemaMap
namespace Dump

open Text

/-! ### What a dump is written from -/

/-- A name: word characters, at least one. -/
structure Name where
  text : String
  isName : DumpLine.IsName text

/-- A text without line feeds. -/
structure Inline where
  text : List Char
  newline_notMem : '\n' ∉ text

/-- A line between tables. -/
inductive Aside where
  | blank
  /-- A comment, given by what stands behind its two hyphens. -/
  | comment (rest : Inline)

/-- A column with its type, which starts with a word character. -/
structure ColumnLine where
  name : Name
  first : Char
  rest : Inline
  first_isWord : isWord first = true

/-- The words that the keys and constraints of a table start with. -/
def keyHeads : List String :=
  ["PRIMARY KEY", "UNIQUE KEY", "KEY", "CONSTRAINT", "FOREIGN KEY"]

/-- A key or a constraint: what it starts with, and what stands behind. No word character
follows, or the line would start with another word. -/
structure KeyLine where
  head : String
  rest : Inline
  head_mem : head ∈ keyHeads
  apart : ∀ c ∈ rest.text.head?, isWord c = false

/-- What one line of a dump is written for. -/
inductive Entry where
  | aside (a : Aside)
  | use (schema : Name)
  | create (schema : Option Name) (name : Name)
  | column (c : ColumnLine)
  | key (k : KeyLine)
  | close (rest : Inline)

/-- How a table tells its schema. -/
inductive Header where
  /-- The schema stands in front of the name. -/
  | qualified
  /-- A `USE` line chooses the schema; the lines between follow it. -/
  | used (between : List Aside)

/-- A table as it is written, behind the lines `before`. -/
structure Block where
  before : List Aside
  schema : Name
  name : Name
  header : Header
  columns : List ColumnLine
  keys : List KeyLine
  ending : Inline
  columns_ne_nil : columns ≠ []

/-- The table that is written. -/
def Block.table (b : Block) : Table :=
  ⟨b.schema.text, b.name.text, b.columns.map fun c => ⟨c.name.text, none⟩⟩

/-- The schema and the name of a table, which tell it from the others. -/
def Block.key (b : Block) : String × String :=
  (b.schema.text, b.name.text)

/-! ### How it is written -/

/-- A name in back quotes. -/
def quoted (n : Name) : List Char :=
  '`' :: (n.text.toList ++ ['`'])

/-- The text of a line between tables. -/
def Aside.text : Aside → List Char
  | blank => []
  | comment rest => '-' :: '-' :: rest.text

/-- The text of a line that chooses a schema. -/
def useText (schema : Name) : List Char :=
  "USE ".toList ++ (quoted schema ++ [';'])

/-- A name in back quotes behind that of its schema, if it has one. -/
def qualified (schema : Option Name) (name : Name) : List Char :=
  match schema with
  | some s => quoted s ++ '.' :: quoted name
  | none => quoted name

/-- The text of a line that opens a table. -/
def createText (schema : Option Name) (name : Name) : List Char :=
  "CREATE TABLE ".toList ++ (qualified schema name ++ [' ', '('])

/-- The text of a line that declares a column. -/
def ColumnLine.text (c : ColumnLine) : List Char :=
  quoted c.name ++ ' ' :: c.first :: c.rest.text

/-- The text of a line that names a key or a constraint. -/
def KeyLine.text (k : KeyLine) : List Char :=
  k.head.toList ++ k.rest.text

/-- The text of a line. -/
def Entry.text : Entry → List Char
  | aside a => a.text
  | use schema => useText schema
  | create schema name => createText schema name
  | column c => c.text
  | key k => k.text
  | close rest => ')' :: rest.text

/-- The lines that head a table. -/
def Block.heading (b : Block) : List Entry :=
  match b.header with
  | .qualified => [.create (some b.schema) b.name]
  | .used between => .use b.schema :: (between.map .aside ++ [.create none b.name])

/-- The lines of a table. -/
def Block.entries (b : Block) : List Entry :=
  b.before.map .aside ++ b.heading ++ b.columns.map .column ++ b.keys.map .key ++ [.close b.ending]

/-- The lines of a dump: those of its tables, and the lines `after` behind the last. -/
def entries (bs : List Block) (after : List Aside) : List Entry :=
  bs.flatMap Block.entries ++ after.map .aside

/-- A line with the white space around its text. -/
structure Line where
  entry : Entry
  before : List Char
  behind : List Char
  blank : ∀ c ∈ before ++ behind, isBlank c = true
  oneLine : '\n' ∉ before ++ behind

/-- A line behind two blanks. -/
def Line.indented (e : Entry) : Line where
  entry := e
  before := [' ', ' ']
  behind := []
  blank := forall_mem_of_all (by decide)
  oneLine := by decide

/-- All that stands on a line. -/
def Line.raw (l : Line) : List Char :=
  l.before ++ l.entry.text ++ l.behind

/-- Lines in one text. A line feed at the end of the text makes a blank line more. -/
def text (ls : List Line) : List Char :=
  ['\n'].intercalate (ls.map Line.raw)

/-! ### A line is one line -/

theorem newline_notMem_of_isName {s : String} (h : DumpLine.IsName s) : '\n' ∉ s.toList :=
  fun hm => absurd (h.2 _ hm) (by decide)

theorem newline_notMem_quoted (n : Name) : '\n' ∉ quoted n := by
  have hname := newline_notMem_of_isName n.isName
  simp [quoted, hname]

theorem Entry.newline_notMem_text (e : Entry) : '\n' ∉ e.text := by
  cases e with
  | aside a =>
    cases a with
    | blank => exact List.not_mem_nil
    | comment rest => simp [Entry.text, Aside.text, rest.newline_notMem]
  | use schema => simp [Entry.text, useText, newline_notMem_quoted]
  | create schema name =>
    have hname : '\n' ∉ qualified schema name := by
      cases schema <;> simp [qualified, newline_notMem_quoted]
    have htext : '\n' ∉ "CREATE TABLE ".toList ++ (qualified schema name ++ [' ', '(']) := by
      simp [hname]
    exact htext
  | column c =>
    have hfirst : c.first ≠ '\n' := ne_of_class (by decide) c.first_isWord
    simp [Entry.text, ColumnLine.text, newline_notMem_quoted, hfirst.symm, c.rest.newline_notMem]
  | key k =>
    have hhead : ∀ w ∈ keyHeads, '\n' ∉ w.toList := by decide
    simp [Entry.text, KeyLine.text, hhead _ k.head_mem, k.rest.newline_notMem]
  | close rest => simp [Entry.text, rest.newline_notMem]

theorem Line.newline_notMem_raw (l : Line) : '\n' ∉ l.raw := by
  have haround := l.oneLine
  rw [List.mem_append, not_or] at haround
  simp [Line.raw, haround, l.entry.newline_notMem_text]

/-- A text of lines is cut into them again. -/
theorem splitOn_text : ∀ {ls : List Line}, ls ≠ [] → splitOn '\n' (text ls) = ls.map Line.raw
  | [], h => absurd rfl h
  | [l], _ => by
    rw [text, List.map_singleton, List.intercalate_singleton,
      splitOn_of_notMem l.newline_notMem_raw]
  | l :: m :: ls, _ => by
    have ih := splitOn_text (List.cons_ne_nil m ls)
    rw [text, List.map_cons] at ih
    rw [text, List.map_cons, List.map_cons, List.intercalate_cons_cons, List.append_assoc,
      List.singleton_append, splitOn_append, splitOn_of_notMem l.newline_notMem_raw, ih]
    rfl

end Dump

/-! ### What is read from a text -/

namespace DumpLine

open Text Dump

theorem name?_quoted (n : Name) (r : List Char) : name? (quoted n ++ r) = some (n.text, r) := by
  have hquote : ∀ c ∈ ('`' :: r).head?, isWord c = false := by
    rintro c ⟨⟩
    decide
  have hrun : wordRun? (n.text.toList ++ '`' :: r) = some (n.text.toList, '`' :: r) :=
    run?_append n.isName.1 n.isName.2 hquote
  have hopen : skipChar '`' (quoted n ++ r) = n.text.toList ++ '`' :: r := by
    simp [quoted, skipChar, orSkip, char?]
  rw [name?, hopen, hrun, Option.map_some]
  simp [skipChar, orSkip, char?]

theorem name?_plain {w : String} (hw : IsName w) {r : List Char}
    (hr : ∀ c ∈ r.head?, isWord c = false) :
    name? (w.toList ++ r) = some (w, skipChar '`' r) := by
  have hrun : wordRun? (w.toList ++ r) = some (w.toList, r) := run?_append hw.1 hw.2 hr
  have hopen : skipChar '`' (w.toList ++ r) = w.toList ++ r := by
    obtain ⟨c, cs, hcs⟩ := List.exists_cons_of_ne_nil hw.1
    have hc : c ≠ '`' := ne_of_class (by decide) (hw.2 c (hcs ▸ List.mem_cons_self))
    simp [hcs, skipChar, orSkip, char?, hc.symm]
  rw [name?, hopen, hrun, Option.map_some]
  simp

theorem skipBlanks_quoted (n : Name) (r : List Char) :
    skipBlanks (quoted n ++ r) = quoted n ++ r :=
  skipBlanks_of_head (by decide) _

theorem ofText_use (schema : Name) : ofText (useText schema) = .use schema.text := by
  have hword (r : List Char) : keywords? ["USE"] ("USE ".toList ++ r) = some (skipBlanks r) :=
    keywords?_append (forall_mem_of_all (by decide)) [] r
  have huse : useShape? (useText schema) = some schema.text := by
    rw [useText, useShape?, hword, skipBlanks_quoted]
    simp only [Option.bind_eq_bind, Option.bind_some, name?_quoted]
    rfl
  rw [ofText, huse]

/-! ### Lines that open a table -/

theorem createHead?_quoted (n : Name) (r : List Char) :
    createHead? ("CREATE TABLE ".toList ++ (quoted n ++ r)) =
      some (quoted n ++ r, quoted n ++ r) := by
  have hwords (cs : List Char) : keywords? ["CREATE", "TABLE"] ("CREATE TABLE ".toList ++ cs) =
      some (skipBlanks cs) :=
    (keywords?_append (forall_mem_of_all (by decide)) ["TABLE"] ("TABLE ".toList ++ cs)).trans
      (keywords?_append (forall_mem_of_all (by decide)) [] cs)
  have hif : keywords? ["IF", "NOT", "EXISTS"] (quoted n ++ r) = none :=
    keywords?_none rfl (by decide) _ _
  rw [createHead?, hwords, skipBlanks_quoted]
  simp only [orSkip, hif, Option.getD_none, Option.bind_eq_bind, Option.bind_some]
  rfl

theorem createShape?_plain (name : Name) :
    createShape? ("CREATE TABLE ".toList ++ (quoted name ++ [' ', '('])) =
      some (none, name.text) := by
  have hqualified : qualifiedShape? (quoted name ++ [' ', '(']) = none := by
    simp only [qualifiedShape?, name?_quoted, Option.bind_eq_bind, Option.bind_some]
    rfl
  have hplain : plainShape? (quoted name ++ [' ', '(']) = some name.text := by
    simp only [plainShape?, name?_quoted, Option.bind_eq_bind, Option.bind_some]
    rfl
  rw [createShape?, createHead?_quoted]
  simp only [hqualified, hplain, Option.bind_eq_bind, Option.bind_some, Option.map_none,
    Option.map_some, Option.none_or, Option.some_or]

theorem createShape?_qualified (schema name : Name) :
    createShape? ("CREATE TABLE ".toList ++ (quoted schema ++ '.' :: (quoted name ++ [' ', '(']))) =
      some (some schema.text, name.text) := by
  have hdot (r : List Char) : char? '.' (skipBlanks ('.' :: r)) = some r := rfl
  have hqualified : qualifiedShape? (quoted schema ++ '.' :: (quoted name ++ [' ', '('])) =
      some (schema.text, name.text) := by
    simp only [qualifiedShape?, name?_quoted, hdot, skipBlanks_quoted, Option.bind_eq_bind,
      Option.bind_some]
    rfl
  rw [createShape?, createHead?_quoted]
  simp only [hqualified, Option.bind_eq_bind, Option.bind_some, Option.map_some, Option.some_or]

theorem ofText_create (schema : Option Name) (name : Name) :
    ofText (createText schema name) = .create (schema.map (·.text)) name.text := by
  have huse : useShape? (createText schema name) = none := rfl
  have hcreate : createShape? (createText schema name) =
      some (schema.map (·.text), name.text) := by
    cases schema with
    | none => exact createShape?_plain name
    | some schema =>
      unfold createText qualified
      rw [List.append_assoc, List.cons_append]
      exact createShape?_qualified schema name
  rw [ofText, huse, hcreate]

/-! ### Lines of a table -/

/-- A text that starts with another letter chooses no schema and opens no table. -/
theorem shapes_of_head {c : Char} (hu : caseFold c ≠ 'U') (hc : caseFold c ≠ 'C')
    (cs : List Char) : useShape? (c :: cs) = none ∧ createShape? (c :: cs) = none := by
  constructor
  · rw [useShape?, keywords?_none rfl hu]
    rfl
  · rw [createShape?, createHead?, keywords?_none rfl hc]
    rfl

/-- **A name in back quotes with a type is a column**, whatever word the name is. -/
theorem ofText_column (n : Name) {c : Char} (hc : isWord c = true) (cs : List Char) :
    ofText (quoted n ++ ' ' :: c :: cs) = .column n.text := by
  obtain ⟨huse, hcreate⟩ := shapes_of_head (c := '`') (by decide) (by decide)
    (n.text.toList ++ ['`'] ++ ' ' :: c :: cs)
  have hskip : skipBlanks (c :: cs) = c :: cs := skipBlanks_of_head (isBlank_of_isWord hc) cs
  have hblanks : blanks? (' ' :: c :: cs) = some (c :: cs) := congrArg some hskip
  have htype : startsType c = true := by simp [startsType, hc]
  have hshape : columnShape? (quoted n ++ ' ' :: c :: cs) = some (true, n.text) :=
    Option.bind_eq_some_iff.2 ⟨_, name?_quoted n _, Option.bind_eq_some_iff.2
      ⟨_, hblanks, Option.bind_eq_some_iff.2 ⟨(), if_pos htype, rfl⟩⟩⟩
  have htext : quoted n ++ ' ' :: c :: cs = '`' :: (n.text.toList ++ ['`'] ++ ' ' :: c :: cs) :=
    rfl
  rw [ofText, hshape, htext, huse, hcreate]
  rfl

/-- The first word of a key or constraint, which keeps it from being taken for a column. -/
theorem keyHeads_word : ∀ head ∈ keyHeads, ∃ w ∈ keyWords, ∃ more,
    head.toList = w.toList ++ more ∧ IsName w ∧ more.head?.any isWord = false := by
  intro head hh
  simp only [keyHeads, List.mem_cons, List.not_mem_nil, or_false] at hh
  rcases hh with rfl | rfl | rfl | rfl | rfl
  · exact ⟨"PRIMARY", by decide, " KEY".toList, rfl, by decide, by decide⟩
  · exact ⟨"UNIQUE", by decide, " KEY".toList, rfl, by decide, by decide⟩
  · exact ⟨"KEY", by decide, [], rfl, by decide, by decide⟩
  · exact ⟨"CONSTRAINT", by decide, [], rfl, by decide, by decide⟩
  · exact ⟨"FOREIGN", by decide, " KEY".toList, rfl, by decide, by decide⟩

/-- **A key or constraint is none of the columns**, whatever stands behind its words. -/
theorem ofText_key {head : String} (hh : head ∈ keyHeads) {rest : List Char}
    (hr : ∀ c ∈ rest.head?, isWord c = false) :
    ofText (head.toList ++ rest) = .key ∨ ofText (head.toList ++ rest) = .silent := by
  have hshapes : useShape? (head.toList ++ rest) = none ∧
      createShape? (head.toList ++ rest) = none ∧ isSilent (head.toList ++ rest) = true ∧
      (head.toList ++ rest).head? ≠ some ')' ∧ (head.toList ++ rest).head? ≠ some '`' := by
    simp only [keyHeads, List.mem_cons, List.not_mem_nil, or_false] at hh
    rcases hh with rfl | rfl | rfl | rfl | rfl <;> exact ⟨rfl, rfl, rfl, by simp, by simp⟩
  obtain ⟨huse, hcreate, hsilent, hparen, hquote⟩ := hshapes
  obtain ⟨w, hw, more, htext, hname, hmore⟩ := keyHeads_word head hh
  have hread : name? (head.toList ++ rest) = some (w, skipChar '`' (more ++ rest)) := by
    rw [htext, List.append_assoc]
    refine name?_plain hname ?_
    cases more with
    | nil => exact hr
    | cons c more => exact forall_mem_some hmore
  rw [ofText, huse, hcreate]
  cases hshape : columnShape? (head.toList ++ rest) with
  | none =>
    right
    simp only [if_neg hparen, hsilent, if_true]
  | some shape =>
    -- the name of the shape is the word, which no back quote stands before
    obtain ⟨quoted, name⟩ := shape
    left
    obtain ⟨⟨n, r⟩, hn, hshape⟩ := Option.bind_eq_some_iff.1 hshape
    obtain ⟨r', -, hshape⟩ := Option.bind_eq_some_iff.1 hshape
    obtain ⟨-, -, hshape⟩ := Option.bind_eq_some_iff.1 hshape
    obtain ⟨rfl, -⟩ := Prod.mk.inj (Option.some.inj (hread.symm.trans hn))
    obtain ⟨rfl, rfl⟩ := Prod.mk.inj (Option.some.inj hshape)
    have hkey : (keyWords.any fun u => sameLetters u.toList w.toList) = true :=
      List.any_eq_true.2 ⟨w, hw, beq_self_eq_true _⟩
    simp only [hquote, hkey, decide_false, Bool.not_false, Bool.and_self, if_true]

theorem ofText_close (rest : List Char) : ofText (')' :: rest) = .close := by
  obtain ⟨huse, hcreate⟩ := shapes_of_head (c := ')') (by decide) (by decide) rest
  have hshape : columnShape? (')' :: rest) = none := rfl
  rw [ofText, huse, hcreate, hshape]
  rfl

/-! ### Lines between tables -/

theorem ofText_blank : ofText [] = .silent := rfl

theorem ofText_comment (rest : List Char) : ofText ('-' :: '-' :: rest) = .silent := by
  obtain ⟨huse, hcreate⟩ := shapes_of_head (c := '-') (by decide) (by decide) ('-' :: rest)
  have hshape : columnShape? ('-' :: '-' :: rest) = none := rfl
  rw [ofText, huse, hcreate, hshape]
  rfl

end DumpLine

/-! ### What is read from a line -/

namespace Dump

open Text

/-- The kinds of line that tell what an entry was written for. -/
def Entry.Says : Entry → DumpLine → Prop
  | aside _, k => k = .silent
  | use schema, k => k = .use schema.text
  | create schema name, k => k = .create (schema.map (·.text)) name.text
  | column c, k => k = .column c.name.text
  | key _, k => k = .key ∨ k = .silent
  | close _, k => k = .close

theorem isTrimmed_quoted (n : Name) : IsTrimmed (quoted n) :=
  ⟨⟨'`', _, rfl, by decide⟩, ⟨'`' :: n.text.toList, '`', rfl, by decide⟩⟩

theorem isTrimmed_useText (schema : Name) : IsTrimmed (useText schema) :=
  ⟨⟨'U', _, rfl, by decide⟩, ⟨"USE ".toList ++ quoted schema, ';', by simp [useText], by decide⟩⟩

theorem isTrimmed_createText (schema : Option Name) (name : Name) :
    IsTrimmed (createText schema name) := by
  refine ⟨⟨'C', _, rfl, by decide⟩,
    ⟨"CREATE TABLE ".toList ++ (qualified schema name ++ [' ']), '(', ?_, by decide⟩⟩
  unfold createText
  simp

theorem isTrimmed_keyHead {head : String} (h : head ∈ keyHeads) : IsTrimmed head.toList := by
  have hends : ∀ w ∈ keyHeads, w.toList.head?.any (fun c => !isBlank c) = true ∧
      w.toList.getLast?.any (fun c => !isBlank c) = true := by decide
  exact isTrimmed_of_ends (hends head h).1 (hends head h).2

/-- **What a line was written for is what is read from it**, with any white space around it. -/
theorem Line.says (l : Line) : l.entry.Says (DumpLine.ofText (trim l.raw)) := by
  obtain ⟨e, before, behind, hblank, hone⟩ := l
  have hbefore : ∀ c ∈ before, isBlank c = true := fun c hc => hblank c (List.mem_append_left _ hc)
  have hbehind : ∀ c ∈ behind, isBlank c = true := fun c hc => hblank c (List.mem_append_right _ hc)
  -- behind the part of a text that tells its kind, only the white space at the end is lost
  have htrim {head : List Char} (h : IsTrimmed head) (rest : List Char) :
      trim (before ++ (head ++ rest) ++ behind) = head ++ dropEndWhile isBlank (rest ++ behind) := by
    rw [← List.append_assoc before, List.append_assoc (before ++ head)]
    exact h.trim_append hbefore _
  unfold Line.raw
  cases e with
  | aside a =>
    cases a with
    | blank =>
      have hnil : trim (before ++ [] ++ behind) = [] :=
        trim_eq_nil (by simpa using hblank)
      exact (congrArg DumpLine.ofText hnil).trans DumpLine.ofText_blank
    | comment rest =>
      have hdashes : IsTrimmed ['-', '-'] := isTrimmed_of_forall (by decide) (forall_mem_of_all (by decide))
      exact (congrArg DumpLine.ofText (htrim hdashes _)).trans (DumpLine.ofText_comment _)
  | use schema =>
    have htext := (isTrimmed_useText schema).trim_between hbefore hbehind
    exact (congrArg DumpLine.ofText htext).trans (DumpLine.ofText_use schema)
  | create schema name =>
    have htext := (isTrimmed_createText schema name).trim_between hbefore hbehind
    exact (congrArg DumpLine.ofText htext).trans (DumpLine.ofText_create schema name)
  | column c =>
    have hfirst : IsTrimmed [c.first] :=
      isTrimmed_of_forall (List.cons_ne_nil _ _) (by simp [isBlank_of_isWord c.first_isWord])
    have hhead := (isTrimmed_quoted c.name).append_between hfirst [' ']
    have htext : quoted c.name ++ [' '] ++ [c.first] ++ c.rest.text = c.text := by
      simp [ColumnLine.text]
    have hraw := htrim hhead c.rest.text
    rw [htext] at hraw
    have hcolumn := DumpLine.ofText_column c.name c.first_isWord
      (dropEndWhile isBlank (c.rest.text ++ behind))
    refine (congrArg DumpLine.ofText hraw).trans ?_
    simpa using hcolumn
  | key k =>
    have hraw := htrim (isTrimmed_keyHead k.head_mem) k.rest.text
    have hapart : ∀ c ∈ (dropEndWhile isBlank (k.rest.text ++ behind)).head?,
        isWord c = false := by
      intro c hc
      have hc' := head?_dropEndWhile hc
      rw [List.head?_append, Option.or_eq_some_iff] at hc'
      rcases hc' with h | ⟨-, h⟩
      · exact k.apart c h
      · exact isWord_of_isBlank (hbehind c (List.mem_of_mem_head? h))
    have hkey := DumpLine.ofText_key k.head_mem hapart
    rw [← hraw] at hkey
    exact hkey
  | close rest =>
    have hparen : IsTrimmed [')'] := isTrimmed_of_forall (by decide) (forall_mem_of_all (by decide))
    exact (congrArg DumpLine.ofText (htrim hparen _)).trans (DumpLine.ofText_close _)

end Dump
end SchemaMap
