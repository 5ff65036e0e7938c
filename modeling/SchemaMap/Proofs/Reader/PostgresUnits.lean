/-
# What a Postgres script declares, told by its units

The reader walks over the pieces of a script with the schema that was created last, and stops at
the first piece that is malformed. Told by place: the units of a script are the tables and schemas
of the statements that the grammar accepts, or what can be read from the text of a statement that
it refuses, tables before schemas before statements to pass over; each table belongs to the latest
schema before it, and the end of the script asks for the latest of all. A unit is told in the terms
of a declaration, not of the reader: a table by its own name, the name in front of it and those of
its columns, a schema by its own name.

The reader looks for a schema only in statements that begin with a known word and create no
table. Nothing is lost by it: whatever declares a schema begins with `CREATE`, since every
statement starts with its first word, and is no table.

Key definitions: `Postgres.ScriptUnit`, `Postgres.unitOfStatement`, `Postgres.unitOfRefused`,
`Postgres.units`, `Postgres.fault?`, `Postgres.latestSchema`, `Postgres.tableAt?`,
`Postgres.noteAt?`, `Postgres.outcome`.
Key theorems: `Postgres.beginsStatement_of_schemaDeclared`, `Postgres.units_eq`,
`Postgres.takeAll_eq`, `Postgres.read_eq_outcome`.
-/
import SchemaMap.Proofs.Placewise
import SchemaMap.Proofs.Script.Chunks
import SchemaMap.Reader.Postgres

namespace SchemaMap
namespace Postgres

open Sql (Refusal Statement)
open Text (isAsciiLetter asciiUpper keywords? skipBlanks)
open Script (Begins withoutComments tableDeclared? schemaDeclared? isCreateTable tableHead?)

/-! ### Units -/

/-- What a script declares in one place. -/
inductive ScriptUnit where
  /-- A table: the part of its name in front of the last one, the last one, and the names of its
  columns. -/
  | table (qualifier : Option String) (name : String) (columns : List String)
  /-- A schema; its name may be missing. -/
  | schema (name : Option String)
  /-- A statement to pass over, and why the grammar refuses it. -/
  | skipped (line : Nat) (reason : String)
  /-- A malformed statement, and why the grammar refuses it. -/
  | malformed (line : Nat) (reason : String)
deriving DecidableEq, Repr

/-- The table with the given parts of a name, outermost first, and the given columns. -/
def tableUnit (nameParts columns : List String) : ScriptUnit :=
  .table nameParts.dropLast.getLast? (nameParts.getLast?.getD "") columns

/-- What an accepted statement declares: a table by the last part of its name and the names of its
columns in order, a schema by the last part of its name, and any other statement nothing. -/
def unitOfStatement : Statement → Option ScriptUnit
  | .createTable nameParts columns => some (tableUnit nameParts (columns.map (·.name)))
  | .createSchema nameParts => some (.schema nameParts.getLast?)
  | .other => none

/-- The first word of a text: its first letters, behind whatever is no letter. -/
def firstWord (cs : List Char) : List Char :=
  (cs.dropWhile fun c => !isAsciiLetter c).takeWhile isAsciiLetter

/-- The first word of a text is one that begins a statement, in either case. -/
def BeginsWithKeyword (cs : List Char) : Prop :=
  ∃ w ∈ statementWords, (firstWord cs).map asciiUpper = w.toList

instance (cs : List Char) : Decidable (BeginsWithKeyword cs) :=
  inferInstanceAs (Decidable (∃ w ∈ statementWords, _))

/-- What a statement declares that the grammar refuses: a table that can be read from its text,
else a schema that can; else it is passed over, if it begins with a known word and creates no
table, and else it is malformed. -/
def unitOfRefused (chunk : Chunk) (reason : Refusal) : ScriptUnit :=
  match tableDeclared? chunk.text, schemaDeclared? chunk.text with
  | some t, _ => tableUnit t.nameParts (t.columns.map (·.name))
  | none, some name => .schema (some (String.ofList name))
  | none, none =>
    if BeginsWithKeyword chunk.text ∧ isCreateTable chunk.text = false then
      .skipped chunk.line reason.message
    else .malformed chunk.line reason.message

/-- The units of a script: those of its statements where the grammar accepts all of it, and
otherwise those of each statement in order. -/
def units (parse : List Char → Except Refusal (List Statement)) (cs : List Char) :
    List ScriptUnit :=
  match parse cs with
  | .ok statements => statements.filterMap unitOfStatement
  | .error _ =>
    (Script.chunks cs).flatMap fun chunk =>
      match parse chunk.text with
      | .ok statements => statements.filterMap unitOfStatement
      | .error reason => [unitOfRefused chunk reason]

/-! ### What the units declare -/

/-- The fault of a malformed unit, which names its line. -/
def fault? : ScriptUnit → Option Fault
  | .malformed line reason => some (.malformed ("line " ++ toString line ++ ": " ++ reason))
  | _ => none

/-- The name that a unit creates a schema with, which may be missing. -/
def createdSchema? : ScriptUnit → Option (Option String)
  | .schema name => some name
  | _ => none

/-- The name of the latest schema among the units, if there is one and it has a name. -/
def latestSchema (us : List ScriptUnit) : Option String :=
  (us.filterMap createdSchema?).getLast?.join

/-- The table of a unit: its schema is the latest one before it, and its columns have no types. -/
def tableAt? (before : List ScriptUnit) : List ScriptUnit → Option Table
  | .table _ name columns :: _ =>
    some ⟨(latestSchema before).getD "", name, columns.map fun c => ⟨c, none⟩⟩
  | _ => none

/-- What there is to note on a table that is written as `name` behind `qualifier`: that there is no
schema to attribute it to, or that it is attributed to another one than its own. -/
def attribution? (schema : String) (qualifier : Option String) (name : String) :
    Option String :=
  let written := String.join ((qualifier.toList.map (· ++ ".")) ++ [name])
  if schema = "" then
    some ("table " ++ written
      ++ " appears before any CREATE SCHEMA; attributed to an empty schema")
  else if ∃ q ∈ qualifier, q ≠ schema then
    some ("table " ++ written ++ " attributed to preceding schema '" ++ schema ++ "'")
  else none

/-- The note on a unit: a table that is not attributed to its own schema, or a statement that is
passed over, with its line. -/
def noteAt? (before : List ScriptUnit) : List ScriptUnit → Option Diagnostic
  | .table qualifier name _ :: _ =>
    (attribution? ((latestSchema before).getD "") qualifier name).map fun text => ⟨none, text⟩
  | .skipped line reason :: _ => some ⟨some line, "skipped unsupported statement: " ++ reason⟩
  | _ => none

/-- What is told of a script with the given units: the fault of the first malformed one, if
there is any, or else that the latest schema has no name, or else the tables and the notes. -/
def outcome (us : List ScriptUnit) : Except Fault Extraction :=
  match us.findSome? fault? with
  | some e => .error e
  | none =>
    if (latestSchema us).getD "" = "" then .error .schemaUndetermined
    else .ok ⟨placewise tableAt? us, placewise noteAt? us⟩

/-! ### A schema begins with its first word -/

/-- The reader looks at the first word of a text. -/
theorem beginsStatement_iff {cs : List Char} :
    beginsStatement cs = true ↔ BeginsWithKeyword cs := by
  have hword (w : String) (hw : w ∈ statementWords) : w.toList.map asciiUpper = w.toList := by
    revert w
    decide
  have hempty (w : String) (hw : w ∈ statementWords) : [] ≠ w.toList := by
    revert w
    decide
  unfold beginsStatement BeginsWithKeyword firstWord
  induction cs with
  | nil =>
    constructor
    · intro h
      cases h
    · rintro ⟨w, hw, h⟩
      exact absurd h (hempty w hw)
  | cons c cs ih =>
    by_cases hc : isAsciiLetter c = true
    · obtain ⟨more, hruns⟩ := Text.runs_of_head (fun c => !isAsciiLetter c) c cs (by simp [hc])
      rw [hruns, List.dropWhile_cons_of_neg (by simp [hc]), List.takeWhile_cons_of_pos hc]
      simp only [Bool.not_not, List.any_eq_true, Text.sameLetters, beq_iff_eq]
      apply exists_congr
      intro w
      apply and_congr_right
      intro hw
      rw [hword w hw, eq_comm]
    · have hskip : Text.runs (fun c => !isAsciiLetter c) (c :: cs) =
          Text.runs (fun c => !isAsciiLetter c) cs := by
        rw [Text.runs.eq_def]
        simp [hc]
      rw [hskip, List.dropWhile_cons_of_pos (by simp [hc])]
      exact ih

theorem schemaDeclared?_head {t name : List Char} (h : schemaDeclared? t = some name) :
    ∃ r, keywords? ["CREATE", "SCHEMA"] (skipBlanks (withoutComments t)) = some r := by
  obtain ⟨r, hr, -⟩ := Option.bind_eq_some_iff.1 h
  exact ⟨r, hr⟩

/-- Behind `CREATE`, the letter `S` is neither that of `TABLE` nor of any word before it. -/
theorem tableHead?_of_schema {cs r : List Char}
    (h : keywords? ["CREATE", "SCHEMA"] (skipBlanks cs) = some r) : tableHead? cs = none := by
  rw [Text.keywords?_cons] at h
  obtain ⟨r', hr', hs⟩ := Option.bind_eq_some_iff.1 h
  obtain ⟨c, rest, rfl, hc⟩ := Text.keywords?_head (d := 'S') rfl hs
  have hnone (w : String) (d : Char) (hw : w.toList.head? = some d) (hd : 'S' ≠ d)
      (ws : List String) : keywords? (w :: ws) (c :: rest) = none :=
    Text.keywords?_none hw (hc ▸ hd) ws rest
  have hor := hnone "OR" 'O' rfl (by decide) ["REPLACE"]
  have hglobal := hnone "GLOBAL" 'G' rfl (by decide) []
  have hlocal := hnone "LOCAL" 'L' rfl (by decide) []
  have htemp := hnone "TEMP" 'T' rfl (by decide) []
  have htemporary := hnone "TEMPORARY" 'T' rfl (by decide) []
  have hunlogged := hnone "UNLOGGED" 'U' rfl (by decide) []
  have htable := hnone "TABLE" 'T' rfl (by decide) []
  simp [tableHead?, hr', Text.orSkip, Text.oneKeyword?, hor, hglobal, hlocal, htemp, htemporary,
    hunlogged, htable]

theorem isCreateTable_of_schemaDeclared {t name : List Char} (h : schemaDeclared? t = some name) :
    isCreateTable t = false := by
  obtain ⟨r, hr⟩ := schemaDeclared?_head h
  unfold isCreateTable
  rw [tableHead?_of_schema hr]
  rfl

/-- The letters in front of a text that starts with the word `CREATE` are those of the word. -/
theorem takeWhile_create {cs r : List Char} (h : keywords? ["CREATE"] cs = some r) :
    (cs.takeWhile isAsciiLetter).map asciiUpper = "CREATE".toList := by
  obtain ⟨k, hk, h⟩ := Option.bind_eq_some_iff.1 h
  obtain ⟨b, hb, -⟩ := Option.bind_eq_some_iff.1 h
  obtain ⟨front, rfl, hf⟩ := Text.keyword?_letters (by decide) (by decide) hk
  obtain ⟨d, rest, rfl, hd⟩ := Text.blanks?_head hb
  have hlast : ¬isAsciiLetter d = true := fun hl => by
    have := Text.toNat_of_isAsciiLetter hl
    rw [Text.isBlank_of_toNat (by omega) (by omega)] at hd
    cases hd
  have hall : (front.map asciiUpper).all isAsciiLetter = true := by rw [hf]; decide
  have hletters : ∀ c ∈ front, isAsciiLetter c = true := fun c hc =>
    Text.isAsciiLetter_of_asciiUpper (List.all_eq_true.1 hall _ (List.mem_map_of_mem hc))
  rw [List.takeWhile_append_of_pos hletters, List.takeWhile_cons_of_neg hlast, List.append_nil, hf]

/-- A statement that declares a schema begins with a known word. -/
theorem beginsStatement_of_schemaDeclared {t name : List Char} (hb : Begins t)
    (h : schemaDeclared? t = some name) : beginsStatement t = true := by
  obtain ⟨r, hr⟩ := schemaDeclared?_head h
  rw [hb.skipBlanks_withoutComments, Text.keywords?_cons] at hr
  obtain ⟨r', hr', -⟩ := Option.bind_eq_some_iff.1 hr
  have hword := takeWhile_create hr'
  rw [Script.takeWhile_letter_withoutComments] at hword
  obtain ⟨c, cs, rfl, -⟩ := hb.1
  have hc : isAsciiLetter c = true := by
    by_contra hc
    rw [List.takeWhile_cons_of_neg hc] at hword
    exact absurd hword (by decide)
  refine beginsStatement_iff.2 ⟨"CREATE", by decide, ?_⟩
  rw [firstWord, List.dropWhile_cons_of_neg (by simp [hc])]
  exact hword

/-! ### Units are the pieces -/

/-- The unit that a piece of the reader stands for. -/
def unitOf : Piece → ScriptUnit
  | .table nameParts columns => tableUnit nameParts columns
  | .schema name => .schema name
  | .skipped line reason => .skipped line reason.message
  | .malformed line reason => .malformed line reason.message

theorem map_unitOf_statements (statements : List Statement) :
    (statements.flatMap ofStatement).map unitOf = statements.filterMap unitOfStatement := by
  induction statements with
  | nil => rfl
  | cons s statements ih =>
    rw [List.flatMap_cons, List.map_append, ih]
    cases s <;> rfl

theorem unitOfRefused_eq {chunk : Chunk} (hb : Begins chunk.text) (reason : Refusal) :
    unitOfRefused chunk reason = unitOf (ofRefused chunk reason) := by
  unfold unitOfRefused ofRefused
  cases tableDeclared? chunk.text with
  | some t => rfl
  | none =>
    cases hs : schemaDeclared? chunk.text with
    | some name =>
      simp [isCreateTable_of_schemaDeclared hs, beginsStatement_of_schemaDeclared hb hs, unitOf]
    | none =>
      simp only [← beginsStatement_iff]
      cases isCreateTable chunk.text <;> cases beginsStatement chunk.text <;> rfl

/-- **The units of a script are what its pieces stand for.** -/
theorem units_eq (parse : List Char → Except Refusal (List Statement)) (cs : List Char) :
    units parse cs = (piecesOf parse cs).map unitOf := by
  unfold units piecesOf
  cases parse cs with
  | ok statements => exact (map_unitOf_statements statements).symm
  | error e =>
    show _ = List.map unitOf (List.flatMap _ _)
    rw [List.map_flatMap]
    refine List.flatMap_congr fun chunk hm => ?_
    cases parse chunk.text with
    | ok statements => exact (map_unitOf_statements statements).symm
    | error reason =>
      exact congrArg ([·]) (unitOfRefused_eq (Script.begins_of_mem_chunks hm) reason)

/-! ### The walk over the pieces -/

theorem qualified_eq : ∀ ps : List String,
    Name.qualified ps = (ps.dropLast.getLast?, ps.getLast?)
  | [] => rfl
  | [_] => rfl
  | [_, _] => rfl
  | a :: b :: c :: ps => by
    have ih := qualified_eq (b :: c :: ps)
    rw [List.dropLast_cons_cons] at ih ⊢
    exact ih

/-- The reader notes what there is to note. -/
theorem attributionNote_eq (schema : String) (qualifier : Option String) (name : String) :
    attributionNote schema qualifier name =
      (attribution? schema qualifier name).map fun text => ⟨none, text⟩ := by
  unfold attributionNote attribution?
  by_cases hempty : schema = ""
  · cases qualifier <;> simp [hempty, String.join, String.append_assoc]
  · cases qualifier with
    | none => simp [hempty]
    | some q =>
      by_cases hq : q = schema
      · simp [hempty, hq]
      · simp [hempty, hq, String.join, String.append_assoc]

theorem latestSchema_append_schema (before : List ScriptUnit) (name : Option String) :
    latestSchema (before ++ [.schema name]) = name := by
  simp [latestSchema, createdSchema?]

theorem latestSchema_append_of_none (before : List ScriptUnit) {u : ScriptUnit}
    (h : createdSchema? u = none) : latestSchema (before ++ [u]) = latestSchema before := by
  simp [latestSchema, h]

/-- One step of the walk behind the units `before`: a malformed unit is a fault, and any other
adds what is told of its place. -/
theorem take_eq (before us : List ScriptUnit) (found : Extraction) (p : Piece) :
    (Walk.mk (latestSchema before) found).take p =
      match fault? (unitOf p) with
      | some e => .error e
      | none => .ok ⟨latestSchema (before ++ [unitOf p]), found.append
          ⟨(tableAt? before (unitOf p :: us)).toList, (noteAt? before (unitOf p :: us)).toList⟩⟩ := by
  cases p with
  | schema name =>
    rw [unitOf, latestSchema_append_schema]
    simp [Walk.take, fault?, tableAt?, noteAt?, Extraction.append]
  | table nameParts columns =>
    rw [unitOf, latestSchema_append_of_none before rfl]
    simp [Walk.take, fault?, tableAt?, noteAt?, tableUnit, qualified_eq, attributionNote_eq]
  | skipped line reason =>
    rw [unitOf, latestSchema_append_of_none before rfl]
    simp [Walk.take, fault?, tableAt?, noteAt?, Diagnostic.at]
  | malformed line reason => rfl

/-- Behind the units `before`, the walk stops at the first malformed unit, and otherwise gathers
what is told of each place. -/
theorem takeAll_eq : ∀ (ps : List Piece) (before : List ScriptUnit) (found : Extraction),
    (Walk.mk (latestSchema before) found).takeAll ps =
      match (ps.map unitOf).findSome? fault? with
      | some e => .error e
      | none => .ok ⟨latestSchema (before ++ ps.map unitOf), found.append
          ⟨placewiseFrom tableAt? before (ps.map unitOf),
            placewiseFrom noteAt? before (ps.map unitOf)⟩⟩
  | [], before, found => by
    simp [Walk.takeAll, placewiseFrom_nil, tableAt?, noteAt?, Extraction.append]
  | p :: ps, before, found => by
    rw [Walk.takeAll, take_eq before (ps.map unitOf), List.map_cons, List.findSome?_cons]
    cases fault? (unitOf p) with
    | some e => rfl
    | none =>
      simp only []
      rw [takeAll_eq ps (before ++ [unitOf p]), placewiseFrom_cons, placewiseFrom_cons]
      simp [Extraction.append]

/-- **What a Postgres script declares is the outcome of its units**, whatever the grammar
accepts or refuses. -/
theorem read_eq_outcome (parse : List Char → Except Refusal (List Statement)) (cs : List Char) :
    read parse cs = outcome (units parse cs) := by
  have hwalk := takeAll_eq (piecesOf parse cs) [] {}
  rw [← units_eq] at hwalk
  unfold read outcome
  change (({} : Walk).takeAll _) = _ at hwalk
  rw [hwalk]
  cases (units parse cs).findSome? fault? with
  | some e => rfl
  | none =>
    unfold Walk.finish
    simp only [List.nil_append]
    cases latestSchema (units parse cs) with
    | none => rfl
    | some schema =>
      by_cases hs : schema = ""
      · subst hs
        rfl
      · simp [hs, Extraction.append, placewiseFrom_nil_left]

end Postgres
end SchemaMap
