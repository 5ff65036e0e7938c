/-
# Tables written between square brackets

A `CREATE TABLE` is written with its names and types between square brackets, as database tools write
them. A type may stand behind a blank or right behind the name, and `NULL` or `NOT NULL` may follow
it. Every statement that is written like this is a table as it is spelled: what stands behind the name
of a column is its type and what follows that.

Key definitions: `Script.BracketedName`, `Script.BracketedColumn`, `Script.bracketedTable`,
`Script.bracketedSpelling`.
Key theorems: `Script.text_bracketedSpelling`, `Script.standsOut_bracketed_iff`.
-/
import SchemaMap.Proofs.Script.SpelledTable

namespace SchemaMap
namespace Script

open Text (isBlank forall_mem_of_all)

/-! ### What is written -/

/-- A name without a closing bracket in it. -/
structure BracketedName where
  name : String
  closed : ']' ∉ name.toList

/-- A name between its brackets. -/
def BracketedName.text (n : BracketedName) : List Char :=
  '[' :: (n.name.toList ++ [']'])

/-- A column with its name and its type. -/
structure BracketedColumn where
  name : BracketedName
  type : BracketedName
  /-- Whether the type stands right behind the name. -/
  adjoining : Bool
  /-- Whether `NULL` or `NOT NULL` follows. -/
  nullable : Option Bool

/-- The words that tell whether a column may be empty. -/
def nullWords : Option Bool → List (List Char)
  | none => []
  | some true => ["NULL".toList]
  | some false => ["NOT".toList, "NULL".toList]

/-- What is written behind the name of a column. -/
def BracketedColumn.behind (c : BracketedColumn) : List Char :=
  (if c.adjoining then [] else [' '])
    ++ (c.type.text ++ (nullWords c.nullable).flatMap ([' '] ++ ·))

/-- A column as it is written. -/
def BracketedColumn.text (c : BracketedColumn) : List Char :=
  c.name.text ++ c.behind

/-- The statement that creates a table with the name parts `names` and the columns `columns`. -/
def bracketedTable (names : List BracketedName) (columns : List BracketedColumn) : List Char :=
  "CREATE TABLE ".toList
    ++ (List.intercalate ['.'] (names.map BracketedName.text) ++ [' ']
      ++ '(' :: (List.intercalate [',', ' '] (columns.map BracketedColumn.text) ++ [')']))

/-! ### How it is spelled -/

theorem isBlank_of_mem_nil : ∀ c ∈ ([] : List Char), isBlank c = true :=
  List.forall_mem_nil _

theorem isBlank_of_mem_blank : ∀ c ∈ [' '], isBlank c = true :=
  forall_mem_of_all (by decide)

/-- A name with its spelling. -/
def BracketedName.spelled (n : BracketedName) : SpelledName :=
  ⟨.brackets, n.name, nofun⟩

theorem BracketedName.text_spelled (n : BracketedName) : n.spelled.text = n.text := by
  show bracketQuoted n.name.toList = n.text
  rw [bracketQuoted, Text.doubled_of_notMem n.closed]
  rfl

theorem BracketedColumn.whole (c : BracketedColumn) : Whole (· == ',') c.text := by
  have hname (n : BracketedName) : Whole (· == ',') n.text := whole_quoted (scans_bracketed n.closed)
  have hblank : Whole (· == ',') (if c.adjoining then [] else [' ']) := by
    split
    · exact whole_nil
    · exact whole_plain (by decide)
  have hnull : Whole (· == ',') ((nullWords c.nullable).flatMap ([' '] ++ ·)) := by
    rcases c.nullable with _ | _ | _
    · exact whole_nil
    · exact whole_plain (by decide)
    · exact whole_plain (by decide)
  exact (hname c.name).append (hblank.append ((hname c.type).append hnull))

/-- A column with its spelling, behind white space. -/
def BracketedColumn.spelled (gap : List Char) (hgap : ∀ c ∈ gap, isBlank c = true)
    (c : BracketedColumn) : SpelledColumn where
  gap := gap
  name := c.name.spelled
  behind := c.behind
  gap_blank := hgap
  held := fun _ => holdsInList_of_notMem c.name.closed
  whole := c.name.text_spelled ▸ c.whole

/-- Columns with their spelling, all but the first one behind a blank. -/
def bracketedElements : List BracketedColumn → List SpelledElement
  | [] => []
  | c :: cs =>
    .column (c.spelled [] isBlank_of_mem_nil) ::
      cs.map fun d => .column (d.spelled [' '] isBlank_of_mem_blank)

/-- A word in upper case with a blank behind it. -/
def upperWord (letters : List Char) (hne : letters ≠ [])
    (h : ∀ c ∈ letters, Text.isAsciiLetter (Text.caseFold c) = true) : SpelledWord :=
  ⟨letters, [' '], hne, List.cons_ne_nil _ _, h, isBlank_of_mem_blank⟩

/-- The words `CREATE TABLE`. -/
def shortHead : TableHead where
  create := upperWord "CREATE".toList (by decide) (forall_mem_of_all (by decide))
  replacing := []
  scope := []
  life := []
  table := upperWord "TABLE".toList (by decide) (forall_mem_of_all (by decide))
  guarded := []
  create_word := by decide
  replacing_words := List.mem_cons_self
  scope_words := List.mem_cons_self
  life_words := List.mem_cons_self
  table_word := by decide
  guarded_words := List.mem_cons_self

/-- A table between square brackets with its spelling. -/
def bracketedSpelling (names : List BracketedName) (columns : List BracketedColumn)
    (h : names ≠ []) : SpelledTable where
  front := []
  head := shortHead
  names := names.map BracketedName.spelled
  gap := [' ']
  elements := bracketedElements columns
  behind := []
  front_blank := isBlank_of_mem_nil
  names_ne_nil := by simpa using h
  held := List.forall_mem_map.2 fun n _ _ => holdsInName_of_notMem n.closed
  gap_blank := isBlank_of_mem_blank

variable (columns : List BracketedColumn)

theorem intercalate_bracketedElements :
    List.intercalate [','] ((bracketedElements columns).map SpelledElement.text) =
      List.intercalate [',', ' '] (columns.map BracketedColumn.text) := by
  cases columns with
  | nil => rfl
  | cons c cs =>
    have htext (gap : List Char) (hgap : ∀ a ∈ gap, isBlank a = true) (d : BracketedColumn) :
        (SpelledElement.column (d.spelled gap hgap)).text = gap ++ d.text := by
      show gap ++ d.name.spelled.text ++ d.behind = gap ++ d.text
      rw [d.name.text_spelled, List.append_assoc]
      rfl
    rw [bracketedElements, List.map_cons, List.map_cons, List.map_map, htext,
      Text.intercalate_cons, Text.intercalate_cons, List.flatMap_map, List.flatMap_map]
    simp [htext]

/-- **Every table between square brackets is a table as it is spelled.** -/
theorem text_bracketedSpelling {names : List BracketedName} (h : names ≠ []) :
    (bracketedSpelling names columns h).text = bracketedTable names columns := by
  have hnames : (names.map BracketedName.spelled).map SpelledName.text =
      names.map BracketedName.text := by
    rw [List.map_map]
    exact List.map_congr_left fun n _ => n.text_spelled
  have hhead : shortHead.text = "CREATE TABLE ".toList := rfl
  rw [SpelledTable.text, SpelledTable.nameText, SpelledTable.listText]
  show [] ++ shortHead.text ++ (List.intercalate ['.'] ((names.map _).map SpelledName.text) ++ [' ']
    ++ '(' :: (List.intercalate [','] ((bracketedElements columns).map _) ++ [')'])) ++ [] = _
  rw [hnames, hhead, intercalate_bracketedElements, List.nil_append, List.append_nil]
  rfl

theorem withoutComments_bracketedTable {names : List BracketedName} (h : names ≠ []) :
    withoutComments (bracketedTable names columns) = (bracketedSpelling names columns h).text := by
  rw [← text_bracketedSpelling columns h]
  exact (bracketedSpelling names columns h).withoutComments_text rfl

theorem columnNames_bracketedSpelling {names : List BracketedName} (h : names ≠ []) :
    (bracketedSpelling names columns h).columnNames = columns.map (·.name.name) := by
  cases columns with
  | nil => rfl
  | cons c cs =>
    have hwritten (gap : List Char) (hgap : ∀ a ∈ gap, isBlank a = true) (d : BracketedColumn) :
        (SpelledElement.column (d.spelled gap hgap)).written? = some d.name.name := rfl
    show (bracketedElements (c :: cs)).filterMap SpelledElement.written? = _
    rw [bracketedElements, List.filterMap_cons_some (hwritten _ _ c), List.filterMap_map]
    exact congrArg (c.name.name :: ·) (congrFun List.filterMap_eq_map cs)

/-- A column between square brackets stands out if no type adjoins its name. -/
theorem standsOut_bracketed_iff :
    (∀ e ∈ bracketedElements columns, e.StandsOut) ↔ ∀ c ∈ columns, c.adjoining = false := by
  have hone (gap : List Char) (hgap : ∀ a ∈ gap, isBlank a = true) (c : BracketedColumn) :
      (SpelledElement.column (c.spelled gap hgap)).StandsOut ↔ c.adjoining = false := by
    have hword : ¬c.name.spelled.IsElementWord := fun hword => nomatch hword.1
    show adjoining c.behind = none ∧ ¬c.name.spelled.IsElementWord ↔ c.adjoining = false
    rw [and_iff_left hword]
    unfold BracketedColumn.behind BracketedName.text
    cases c.adjoining <;> simp [adjoining] <;> decide
  cases columns with
  | nil => simp [bracketedElements]
  | cons c cs => simp [bracketedElements, hone]

end Script
end SchemaMap
