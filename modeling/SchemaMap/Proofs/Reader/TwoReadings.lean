/-
# The two readings of a table

A statement that creates a table is read by the grammar, and from its text where the grammar refuses
something around it. So which columns a table has should not depend on the way it is read. For every
grammar that takes a table as it was written, the two readings agree on the name of the table, and on
its columns exactly where every element of the column list stands out. They differ where something
adjoins the name of a column, where a plain name is one of the words kept for clauses, and where
something else than a parenthesis adjoins the word of a clause.

Key definitions: `Sql.ReadAlike`, `Sql.TakenAsWritten`.
Key theorems: `Sql.readAlike_iff_standsOut`, `Sql.takenAsWritten_bracketed`.
-/
import SchemaMap.Proofs.Sql.BracketedTable

namespace SchemaMap
namespace Sql

open Script
open Text (forall_mem_of_all)

/-- Where a grammar takes a text as one table with columns and its text can be read, the two readings
give the same schema, the same table and the same names of columns. -/
def ReadAlike (parse : List Char → Except Refusal (List Statement)) (cs : List Char) : Prop :=
  ∀ names columns t, parse cs = .ok [.createTable names columns] → columns ≠ [] →
    tableDeclared? cs = some t →
      Name.qualified t.nameParts = Name.qualified names ∧
        t.columns.map (·.name) = columns.map (·.name)

/-- A grammar takes a text for one table, with the name parts and the column names it was written
with. -/
def TakenAsWritten (parse : List Char → Except Refusal (List Statement)) (T : SpelledTable)
    (cs : List Char) : Prop :=
  ∃ columns, parse cs = .ok [.createTable (T.names.map (·.name)) columns] ∧
    columns.map (·.name) = T.columnNames

/-- The names of the columns that are read of a text are read element by element. -/
theorem map_name_filterMap (es : List SpelledElement) :
    (es.filterMap fun e => Script.columnOf? (Text.trim e.text)).map (·.name) =
      es.filterMap SpelledElement.read? := by
  rw [List.map_filterMap]
  rfl

/-- **The two readings of a table agree where every element of its column list stands out**, and
nowhere else, for every grammar that takes the table as it was written. Comments may stand anywhere
in the text. -/
theorem readAlike_iff_standsOut {parse : List Char → Except Refusal (List Statement)}
    {T : SpelledTable} {cs : List Char} (hcs : withoutComments cs = T.text)
    (hne : T.columnNames ≠ []) (h : TakenAsWritten parse T cs) :
    ReadAlike parse cs ↔ ∀ e ∈ T.elements, e.StandsOut := by
  obtain ⟨columns, hparse, hcolumns⟩ := h
  have htext := T.tableDeclared?_eq hcs
  have hnonempty : columns ≠ [] := by
    rintro rfl
    exact hne hcolumns.symm
  rw [← SpelledElement.filterMap_read_eq_iff, ← map_name_filterMap]
  constructor
  · intro halike
    have hnames := (halike _ _ _ hparse hnonempty htext).2
    exact hnames.trans hcolumns
  · intro hnames names columns' t hparse' _ htext'
    rw [hparse] at hparse'
    rw [htext] at htext'
    cases hparse'
    cases htext'
    exact ⟨rfl, hnames.trans hcolumns.symm⟩

/-- The T-SQL grammar takes every table between square brackets as it was written. -/
theorem takenAsWritten_bracketed {names : List BracketedName} {columns : List BracketedColumn}
    (hn : names ≠ []) (hc : columns ≠ []) :
    TakenAsWritten (parse .tsql) (bracketedSpelling names columns hn)
      (bracketedTable names columns) := by
  refine ⟨columns.map declaredColumn, ?_, ?_⟩
  · rw [parse_bracketed hn hc]
    show _ = Except.ok [Statement.createTable ((names.map BracketedName.spelled).map (·.name)) _]
    rw [List.map_map]
    rfl
  · rw [Script.columnNames_bracketedSpelling, List.map_map]
    rfl

/-! ### A table of each dialect -/

/-- A column of which the name stands between double quotes. -/
def idColumn : SpelledColumn where
  gap := []
  name := ⟨.double, "Id", nofun⟩
  behind := " int".toList
  gap_blank := isBlank_of_mem_nil
  held := nofun
  whole := (whole_quotation (.inl rfl) "Id".toList).append (whole_plain (by decide))

/-- A column with a plain name, behind white space and what is left of a comment. -/
def nameColumn : SpelledColumn where
  gap := "       \n ".toList
  name := ⟨.plain, "name", fun _ => ⟨by decide, forall_mem_of_all (by decide)⟩⟩
  behind := " varchar(40)".toList
  gap_blank := forall_mem_of_all (by decide)
  held := nofun
  whole := by
    have hword : Whole (· == ',') "name varchar".toList := whole_plain (by decide)
    have hlength : Whole (fun _ => false) "40".toList := whole_plain (by decide)
    exact hword.append hlength.parenthesised

/-- The clause that makes a column the key. -/
def keyClause : SpelledClause where
  gap := [' ']
  word := "PRIMARY".toList
  behind := " KEY (\"Id\")".toList
  gap_blank := isBlank_of_mem_blank
  kept := ⟨"PRIMARY", by decide, by decide⟩
  ends := Text.forall_mem_some (by decide)
  whole := by
    have hwords : Whole (· == ',') "PRIMARY KEY ".toList := whole_plain (by decide)
    have hkey : Whole (fun _ => false) "\"Id\"".toList :=
      whole_quotation (.inl rfl) "Id".toList
    exact hwords.append hkey.parenthesised

/-- A table with a name in two spellings. -/
def usersTable : SpelledTable where
  front := []
  head := shortHead
  names := [⟨.plain, "app", fun _ => ⟨by decide, forall_mem_of_all (by decide)⟩⟩,
    ⟨.double, "Users", nofun⟩]
  gap := [' ']
  elements := [.column idColumn, .column nameColumn, .clause keyClause]
  behind := []
  front_blank := isBlank_of_mem_nil
  names_ne_nil := List.cons_ne_nil _ _
  held := by simp [SpelledName.HeldInName]
  gap_blank := isBlank_of_mem_blank

/-- The text of the table, with a comment. -/
def usersText : List Char :=
  "CREATE TABLE app.\"Users\" (\"Id\" int, -- key\n name varchar(40), PRIMARY KEY (\"Id\"))".toList

/-- The name parts of a table between square brackets. -/
def bracketedUsersName : List BracketedName :=
  [⟨"dbo", by decide⟩, ⟨"Users", by decide⟩]

/-- Its columns, with their types behind a blank. -/
def bracketedUsersColumns : List BracketedColumn :=
  [⟨⟨"Id", by decide⟩, ⟨"int", by decide⟩, false, some false⟩,
    ⟨⟨"Full Name", by decide⟩, ⟨"nvarchar", by decide⟩, false, none⟩]

/-- The table as it is spelled. -/
def bracketedUsers : SpelledTable :=
  bracketedSpelling bracketedUsersName bracketedUsersColumns (List.cons_ne_nil _ _)

/-- The text of the table. -/
def bracketedUsersText : List Char :=
  "CREATE TABLE [dbo].[Users] ([Id] [int] NOT NULL, [Full Name] [nvarchar])".toList

/-- What is left of a result shows whether the text was accepted. -/
theorem eq_ok_of_toOption {r : Except Refusal (List Statement)} {statements : List Statement}
    (h : r.toOption = some statements) : r = .ok statements := by
  cases r with
  | error e => cases h
  | ok a => exact congrArg _ (Option.some.inj h)

theorem readAlike_users :
    (withoutComments usersText = usersTable.text ∧ usersTable.columnNames ≠ [] ∧
      TakenAsWritten (parse .postgres) usersTable usersText ∧
      ReadAlike (parse .postgres) usersText) ∧
    (withoutComments bracketedUsersText = bracketedUsers.text ∧
      bracketedUsers.columnNames ≠ [] ∧
      TakenAsWritten (parse .tsql) bracketedUsers bracketedUsersText ∧
      ReadAlike (parse .tsql) bracketedUsersText) := by
  have htext : withoutComments usersText = usersTable.text := by decide +kernel
  have hne : usersTable.columnNames ≠ [] := by decide
  have htaken : TakenAsWritten (parse .postgres) usersTable usersText :=
    ⟨[⟨"Id", some "INT"⟩, ⟨"name", some "VARCHAR(40)"⟩],
      eq_ok_of_toOption (by decide +kernel), by decide⟩
  have hwritten : bracketedTable bracketedUsersName bracketedUsersColumns = bracketedUsersText := by
    decide
  have hbtext : withoutComments bracketedUsersText = bracketedUsers.text := by
    rw [← hwritten]
    exact Script.withoutComments_bracketedTable _ (List.cons_ne_nil _ _)
  have hbne : bracketedUsers.columnNames ≠ [] := by decide
  have hbtaken : TakenAsWritten (parse .tsql) bracketedUsers bracketedUsersText := by
    rw [← hwritten]
    exact takenAsWritten_bracketed (List.cons_ne_nil _ _) (List.cons_ne_nil _ _)
  have hbapart : ∀ c ∈ bracketedUsersColumns, c.adjoining = false := by decide
  exact ⟨⟨htext, hne, htaken, (readAlike_iff_standsOut htext hne htaken).2 (by decide +kernel)⟩,
    ⟨hbtext, hbne, hbtaken, (readAlike_iff_standsOut hbtext hbne hbtaken).2
      ((standsOut_bracketed_iff _).2 hbapart)⟩⟩

/-- A column of which the type adjoins the name. -/
def adjoiningColumn : BracketedColumn :=
  ⟨⟨"Id", by decide⟩, ⟨"int", by decide⟩, true, some false⟩

/-- The reader of the text calls the column `Id][int`. -/
theorem adjoining_type_misread :
    ¬ReadAlike (parse .tsql) "CREATE TABLE [t] ([Id][int] NOT NULL)".toList := by
  have hwritten : bracketedTable [⟨"t", by decide⟩] [adjoiningColumn] =
      "CREATE TABLE [t] ([Id][int] NOT NULL)".toList := by
    decide
  have hparse := parse_bracketed (List.cons_ne_nil ⟨"t", by decide⟩ [])
    (List.cons_ne_nil adjoiningColumn [])
  rw [hwritten] at hparse
  have htext : tableDeclared? "CREATE TABLE [t] ([Id][int] NOT NULL)".toList =
      some ⟨["t"], [⟨"Id][int", none⟩]⟩ := by
    decide +kernel
  intro h
  have hnames := (h _ _ _ hparse (List.cons_ne_nil _ _) htext).2
  exact absurd hnames (by decide)

end Sql
end SchemaMap
