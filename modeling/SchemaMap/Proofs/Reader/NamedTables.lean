/-
# Which tables have names

A line of a dump gives its names as words, so no table of a dump is without one. In the other two
dialects a name is taken from a statement that the grammar accepts, or from the text of one that
it refuses. If the grammar accepts no empty names, all depends on the texts: a table is left
without a name where nothing but dots stands in front of its column list, or where the last word
there is a pair of quotes with nothing between them (`Script.unquoted_eq_nil`). A schema is empty
in the same way, and then it is not replaced by the default one.

Key definitions: `Sql.Statement.Named`, `Driver.Named`, `Driver.NamedByWords`, `Driver.readBy`,
`Driver.recovered`.
Key theorems: `Script.unquoted_eq_nil`, `Postgres.read_named_iff`, `SqlServer.read_named_iff`,
`Driver.tables_named_iff`.
-/
import SchemaMap.Proofs.Reader.DumpScan
import SchemaMap.Proofs.Reader.PostgresUnits
import SchemaMap.Proofs.Reader.SqlServerBatches

namespace SchemaMap

open Sql (Refusal Statement)

/-! ### Names in a text -/

namespace Script

/-- Pairs of quotes with nothing between them. -/
def emptyQuotes : List (List Char) :=
  [['"', '"'], ['[', ']'], ['`', '`']]

/-- Between two quotes there is nothing, or no quotes are there at all. -/
theorem between?_eq_nil {opening closing : Char} {cs : List Char} :
    between? opening closing cs = some [] ↔ cs = [opening, closing] := by
  cases cs with
  | nil => simp [between?, Text.char?]
  | cons c rest =>
    by_cases hc : opening = c
    · subst hc
      have hchar : Text.char? opening (opening :: rest) = some rest := by simp [Text.char?]
      simp only [between?, hchar, Option.bind_eq_bind, Option.bind_some]
      constructor
      · intro h
        split at h
        · rename_i hlast
          obtain ⟨front, rfl⟩ := List.getLast?_eq_some_iff.1 hlast
          rw [List.dropLast_concat, Option.some.injEq, Text.undouble_eq_nil] at h
          rw [h, List.nil_append]
        · cases h
      · intro h
        obtain ⟨-, rfl⟩ := List.cons.inj h
        simp [Text.undouble]
    · have hne : c :: rest ≠ [opening, closing] := fun h => hc (List.cons.inj h).1.symm
      simp [between?, Text.char?, hc, hne]

/-- **A word names nothing** if it is empty, or a pair of quotes with nothing between them. -/
theorem unquoted_eq_nil {cs : List Char} : unquoted cs = [] ↔ cs = [] ∨ cs ∈ emptyQuotes := by
  constructor
  · intro h
    unfold unquoted at h
    obtain hnone | ⟨t, ht⟩ := Option.eq_none_or_eq_some
      ((between? '"' '"' cs).or ((between? '[' ']' cs).or (between? '`' '`' cs)))
    · rw [hnone] at h
      exact .inl h
    · rw [ht] at h
      obtain rfl : t = [] := h
      rcases Option.or_eq_some_iff.1 ht with ht | ⟨-, ht⟩
      · exact .inr (by simp [emptyQuotes, between?_eq_nil.1 ht])
      rcases Option.or_eq_some_iff.1 ht with ht | ⟨-, ht⟩
      · exact .inr (by simp [emptyQuotes, between?_eq_nil.1 ht])
      · exact .inr (by simp [emptyQuotes, between?_eq_nil.1 ht])
  · rintro (rfl | h)
    · rfl
    · have hall : ∀ w ∈ emptyQuotes, unquoted w = [] := by decide
      exact hall cs h

/-- The words between the dots of the name that a text gives to the table it creates. -/
def nameWords (cs : List Char) : List (List Char) :=
  match (tableHead? (withoutComments cs)).bind fun rest => splitAtOpen? (tagged rest) with
  | some (before, _) => parts (· == '.') (Text.trim before)
  | none => []

theorem nameParts_eq {cs : List Char} {t : TableText} (h : tableDeclared? cs = some t) :
    t.nameParts = (nameWords cs).map fun w => String.ofList (unquoted w) := by
  obtain ⟨rest, hrest, h⟩ := Option.bind_eq_some_iff.1 h
  obtain ⟨⟨before, more⟩, hsplit, h⟩ := Option.bind_eq_some_iff.1 h
  obtain ⟨-, -, h⟩ := Option.bind_eq_some_iff.1 h
  obtain ⟨body, -, h⟩ := Option.bind_eq_some_iff.1 h
  cases h
  simp only [nameWords, hrest, Option.bind_some, hsplit]

theorem ne_nil_of_mem_nameWords {cs w : List Char} (h : w ∈ nameWords cs) : w ≠ [] := by
  unfold nameWords at h
  split at h
  · obtain ⟨-, hne⟩ := List.mem_filter.1 h
    simpa using hne
  · exact absurd h List.not_mem_nil

/-- A word of a name is an empty part just where it is an empty pair of quotes. -/
theorem ofList_unquoted_eq_empty {cs w : List Char} (h : w ∈ nameWords cs) :
    String.ofList (unquoted w) = "" ↔ w ∈ emptyQuotes := by
  have hne := ne_nil_of_mem_nameWords h
  rw [String.ofList_eq_empty_iff, unquoted_eq_nil]
  simp [hne]

end Script

/-! ### Names with parts -/

/-- A statement in which no name is without parts, and no part is empty. -/
def Sql.Statement.Named : Statement → Prop
  | .createTable nameParts _ => nameParts ≠ [] ∧ "" ∉ nameParts
  | .createSchema nameParts => nameParts ≠ [] ∧ "" ∉ nameParts
  | .other => True

instance : DecidablePred Sql.Statement.Named
  | .createTable nameParts _ => inferInstanceAs (Decidable (nameParts ≠ [] ∧ "" ∉ nameParts))
  | .createSchema nameParts => inferInstanceAs (Decidable (nameParts ≠ [] ∧ "" ∉ nameParts))
  | .other => inferInstanceAs (Decidable True)

namespace Driver

/-- A table that has a name, and a schema where every table is to have one. -/
def Named (d : Driver) (t : Table) : Prop :=
  t.name ≠ "" ∧ (d = .sqlserver → t.schema ≠ "")

/-- Whether parts give a table the names that it is to have: there is a last part that is not
empty, and where each table has a schema, the part before it is not empty either. -/
def NamedBy (d : Driver) (ps : List String) : Prop :=
  ps.getLast?.getD "" ≠ "" ∧ (d = .sqlserver → ps.dropLast.getLast? ≠ some "")

/-- Whether the words of a name give a table the names that it is to have: there is a last word
that is no empty pair of quotes, nor is the word before it, where each table has a schema. -/
def NamedByWords (d : Driver) (ws : List (List Char)) : Prop :=
  (∃ w, ws.getLast? = some w ∧ w ∉ Script.emptyQuotes) ∧
    (d = .sqlserver → ∀ w, ws.dropLast.getLast? = some w → w ∉ Script.emptyQuotes)

theorem namedBy_of_notMem (d : Driver) {ps : List String} (hne : ps ≠ []) (h : "" ∉ ps) :
    d.NamedBy ps := by
  constructor
  · rw [List.getLast?_eq_some_getLast hne, Option.getD_some]
    exact fun he => h (he ▸ List.getLast_mem hne)
  · exact fun _ he => h (List.dropLast_subset ps (List.mem_of_getLast? he))

theorem namedBy_iff (d : Driver) {cs : List Char} {t : TableText}
    (h : Script.tableDeclared? cs = some t) :
    d.NamedBy t.nameParts ↔ d.NamedByWords (Script.nameWords cs) := by
  have hempty {w : List Char} (hw : w ∈ Script.nameWords cs) :=
    Script.ofList_unquoted_eq_empty hw
  rw [NamedBy, NamedByWords, Script.nameParts_eq h, List.getLast?_map, ← List.map_dropLast,
    List.getLast?_map]
  refine and_congr ?_ (imp_congr_right fun _ => ?_)
  · cases hl : (Script.nameWords cs).getLast? with
    | none => simp
    | some w => simp [hempty (List.mem_of_getLast? hl)]
  · cases hl : (Script.nameWords cs).dropLast.getLast? with
    | none => simp
    | some w =>
      have hw := List.dropLast_subset _ (List.mem_of_getLast? hl)
      simp [hempty hw]

theorem named_tableNamed (ps : List String) (columns : List Column) :
    Named .sqlserver (SqlServer.tableNamed ps columns) ↔ NamedBy .sqlserver ps := by
  unfold Named NamedBy SqlServer.tableNamed
  rw [Postgres.qualified_eq]
  refine and_congr Iff.rfl (imp_congr_right fun _ => ?_)
  cases ps.dropLast.getLast? with
  | none => simp [SqlServer.defaultSchema]
  | some q => simp

end Driver

/-! ### Postgres scripts -/

/-- Whether a text is refused by a grammar and declares a table nevertheless. -/
def Script.isRecovered (parse : List Char → Except Refusal (List Statement)) (cs : List Char) :
    Bool :=
  !(parse cs).isOk && (tableDeclared? cs).isSome

namespace Postgres

/-- The parts of the name of a table that a piece creates. -/
def createdName? : Piece → Option (List String)
  | .table nameParts _ => some nameParts
  | _ => none

/-- A piece adds the table it creates. -/
theorem take_names {w w' : Walk} {p : Piece} (h : w.take p = .ok w') :
    w'.found.tables.map (·.name) =
      w.found.tables.map (·.name) ++ (createdName? p).toList.map (·.getLast?.getD "") := by
  cases p with
  | table nameParts columns =>
    cases h
    simp [Extraction.append, createdName?, qualified_eq]
  | schema name =>
    cases h
    simp [createdName?]
  | skipped line reason =>
    cases h
    simp [Extraction.append, createdName?]
  | malformed line reason => cases h

/-- A walk adds the tables of its pieces, in order. -/
theorem takeAll_names : ∀ {ps : List Piece} {w w' : Walk}, w.takeAll ps = .ok w' →
    w'.found.tables.map (·.name) =
      w.found.tables.map (·.name) ++ (ps.filterMap createdName?).map (·.getLast?.getD "")
  | [], w, w', h => by
    cases h
    simp
  | p :: ps, w, w', h => by
    rw [Walk.takeAll] at h
    split at h
    · cases h
    · rename_i v hv
      rw [takeAll_names h, take_names hv]
      cases hp : createdName? p <;> simp [hp]

theorem namedBy_of_accepted {statements : List Statement} (h : ∀ s ∈ statements, s.Named) :
    ∀ ps ∈ (statements.flatMap ofStatement).filterMap createdName?, Driver.postgres.NamedBy ps := by
  intro ps hps
  obtain ⟨p, hp, hname⟩ := List.mem_filterMap.1 hps
  obtain ⟨s, hs, hp⟩ := List.mem_flatMap.1 hp
  have hnamed := h s hs
  cases s with
  | createTable nameParts columns =>
    obtain rfl := List.mem_singleton.1 hp
    cases hname
    exact Driver.namedBy_of_notMem _ hnamed.1 hnamed.2
  | createSchema nameParts =>
    obtain rfl := List.mem_singleton.1 hp
    cases hname
  | other => exact absurd hp List.not_mem_nil

/-- A refused statement that no table is read from creates none. -/
theorem createdName?_ofRefused (chunk : Chunk) (reason : Refusal) :
    createdName? (ofRefused chunk reason) =
      (Script.tableDeclared? chunk.text).map (·.nameParts) := by
  unfold ofRefused
  cases ht : Script.tableDeclared? chunk.text with
  | some t => rfl
  | none =>
    simp only [Option.map_none]
    split
    · rfl
    · cases Script.schemaDeclared? chunk.text <;> rfl

/-- The texts in a script that a table is read from, since the grammar refuses them. -/
def recovered (parse : List Char → Except Refusal (List Statement)) (cs : List Char) :
    List (List Char) :=
  if (parse cs).isOk then []
  else ((Script.chunks cs).map (·.text)).filter (Script.isRecovered parse)

/-- The pieces of one statement. -/
def piecesOfChunk (parse : List Char → Except Refusal (List Statement)) (chunk : Chunk) :
    List Piece :=
  match parse chunk.text with
  | .ok statements => statements.flatMap ofStatement
  | .error reason => [ofRefused chunk reason]

variable {parse : List Char → Except Refusal (List Statement)}

/-- A statement names its tables just where its text does, if a table is read from its text. -/
theorem piecesOfChunk_namedBy_iff
    (hparse : ∀ cs statements, parse cs = .ok statements → ∀ s ∈ statements, s.Named)
    (chunk : Chunk) :
    (∀ ps ∈ (piecesOfChunk parse chunk).filterMap createdName?, Driver.postgres.NamedBy ps) ↔
      (Script.isRecovered parse chunk.text = true →
        Driver.postgres.NamedByWords (Script.nameWords chunk.text)) := by
  unfold piecesOfChunk Script.isRecovered
  cases hp : parse chunk.text with
  | ok statements =>
    have hnamed := namedBy_of_accepted (hparse _ _ hp)
    simpa [Except.isOk, Except.toBool] using hnamed
  | error reason =>
    cases ht : Script.tableDeclared? chunk.text with
    | none => simp [createdName?_ofRefused, ht]
    | some t =>
      rw [← Driver.namedBy_iff _ ht]
      simp [createdName?_ofRefused, ht, Except.isOk, Except.toBool]

/-- The pieces of a script name their tables just where the texts do that tables are read
from. -/
theorem piecesOf_namedBy_iff
    (hparse : ∀ cs statements, parse cs = .ok statements → ∀ s ∈ statements, s.Named)
    (cs : List Char) :
    (∀ ps ∈ (piecesOf parse cs).filterMap createdName?, Driver.postgres.NamedBy ps) ↔
      ∀ u ∈ recovered parse cs, Driver.postgres.NamedByWords (Script.nameWords u) := by
  unfold piecesOf recovered
  cases hp : parse cs with
  | ok statements =>
    have hnamed := namedBy_of_accepted (hparse _ _ hp)
    simpa [Except.isOk, Except.toBool] using hnamed
  | error reason =>
    have hchunk (chunk : Chunk) := piecesOfChunk_namedBy_iff hparse chunk
    have hmem (ps : List String) :
        ps ∈ ((Script.chunks cs).flatMap (piecesOfChunk parse)).filterMap createdName? ↔
          ∃ chunk ∈ Script.chunks cs, ps ∈ (piecesOfChunk parse chunk).filterMap createdName? := by
      rw [List.filterMap_flatMap, List.mem_flatMap]
    constructor
    · intro h u hu
      obtain ⟨hu, hrec⟩ := List.mem_filter.1 hu
      obtain ⟨chunk, hc, rfl⟩ := List.mem_map.1 hu
      exact (hchunk chunk).1 (fun ps hps => h ps ((hmem ps).2 ⟨chunk, hc, hps⟩)) hrec
    · intro h ps hps
      obtain ⟨chunk, hc, hps⟩ := (hmem ps).1 hps
      refine (hchunk chunk).2 (fun hrec => ?_) ps hps
      exact h _ (List.mem_filter.2 ⟨List.mem_map_of_mem hc, hrec⟩)

/-- What a script declares has names just where the texts do that tables are read from. -/
theorem read_named_iff
    (hparse : ∀ cs statements, parse cs = .ok statements → ∀ s ∈ statements, s.Named)
    {cs : List Char} {x : Extraction} (hx : read parse cs = .ok x) :
    (∀ t ∈ x.tables, Driver.postgres.Named t) ↔
      ∀ u ∈ recovered parse cs, Driver.postgres.NamedByWords (Script.nameWords u) := by
  have hnames : x.tables.map (·.name) =
      ((piecesOf parse cs).filterMap createdName?).map (·.getLast?.getD "") := by
    unfold read at hx
    split at hx
    · cases hx
    · rename_i w hw
      have hwalk := takeAll_names hw
      unfold Walk.finish at hx
      split at hx
      · split at hx
        · cases hx
        · cases hx
          exact hwalk
      · cases hx
  have hall : (∀ t ∈ x.tables, Driver.postgres.Named t) ↔ ∀ n ∈ x.tables.map (·.name), n ≠ "" := by
    simp [Driver.Named]
  rw [hall, hnames, List.forall_mem_map, ← piecesOf_namedBy_iff hparse]
  refine forall₂_congr fun ps _ => ?_
  simp [Driver.NamedBy]

end Postgres

/-! ### T-SQL scripts -/

namespace SqlServer

variable {parse : List Char → Except Refusal (List Statement)}

/-- The texts in a script that a table is read from, since the grammar refuses them. -/
def recovered (parse : List Char → Except Refusal (List Statement)) (cs : List Char) :
    List (List Char) :=
  ((parts parse cs).map (·.chunk.text)).filter (Script.isRecovered parse)

theorem named_of_accepted {statements : List Statement} (h : ∀ s ∈ statements, s.Named) :
    ∀ t ∈ (ofStatements statements).tables, Driver.sqlserver.Named t := by
  intro t ht
  obtain ⟨s, hs, he⟩ := List.mem_filterMap.1 ht
  have hnamed := h s hs
  cases s with
  | createTable nameParts columns =>
    cases he
    exact (Driver.named_tableNamed _ _).2 (Driver.namedBy_of_notMem _ hnamed.1 hnamed.2)
  | createSchema nameParts => cases he
  | other => cases he

/-- A part names its tables just where its text does, if a table is read from its text. -/
theorem declares_named_iff
    (hparse : ∀ cs statements, parse cs = .ok statements → ∀ s ∈ statements, s.Named) (p : Part) :
    (∀ t ∈ (p.declares parse).tables, Driver.sqlserver.Named t) ↔
      (Script.isRecovered parse p.chunk.text = true →
        Driver.sqlserver.NamedByWords (Script.nameWords p.chunk.text)) := by
  unfold Part.declares ofUnit Script.isRecovered
  cases hp : parse p.chunk.text with
  | ok statements =>
    have hnamed := named_of_accepted (hparse _ _ hp)
    simpa [Except.isOk, Except.toBool] using hnamed
  | error reason =>
    cases ht : Script.tableDeclared? p.chunk.text with
    | none => simp [ofRefused, ht]
    | some t =>
      rw [← Driver.namedBy_iff _ ht]
      simp [ofRefused, ht, Except.isOk, Except.toBool, Driver.named_tableNamed]

theorem mem_tables_concat {t : Table} : ∀ {xs : List Extraction},
    t ∈ (Extraction.concat xs).tables ↔ ∃ x ∈ xs, t ∈ x.tables
  | [] => by simp [Extraction.concat]
  | x :: xs => by
    have ih : t ∈ (Extraction.concat xs).tables ↔ ∃ x ∈ xs, t ∈ x.tables := mem_tables_concat
    have hcons : (Extraction.concat (x :: xs)).tables = x.tables ++ (Extraction.concat xs).tables :=
      rfl
    rw [hcons, List.mem_append, ih]
    simp

/-- What a script declares has names just where the texts do that tables are read from. -/
theorem read_named_iff
    (hparse : ∀ cs statements, parse cs = .ok statements → ∀ s ∈ statements, s.Named)
    (cs : List Char) :
    (∀ t ∈ (read parse cs).tables, Driver.sqlserver.Named t) ↔
      ∀ u ∈ recovered parse cs, Driver.sqlserver.NamedByWords (Script.nameWords u) := by
  have hpart (p : Part) := declares_named_iff hparse p
  have hmem : ∀ t, t ∈ (read parse cs).tables ↔
      ∃ p ∈ parts parse cs, t ∈ (p.declares parse).tables := by
    intro t
    rw [read_eq_parts, mem_tables_concat]
    simp
  constructor
  · intro h u hu
    obtain ⟨hu, hrec⟩ := List.mem_filter.1 hu
    obtain ⟨p, hp, rfl⟩ := List.mem_map.1 hu
    exact (hpart p).1 (fun t ht => h t ((hmem t).2 ⟨p, hp, ht⟩)) hrec
  · intro h t ht
    obtain ⟨p, hp, ht⟩ := (hmem t).1 ht
    refine (hpart p).2 (fun hrec => ?_) t ht
    exact h _ (List.mem_filter.2 ⟨List.mem_map_of_mem hp, hrec⟩)

end SqlServer

/-! ### All drivers -/

namespace MySql

/-- Every table of a dump has a name. -/
theorem read_named (cs : List Char) : ∀ t ∈ (read cs).tables, t.name ≠ "" := by
  intro t ht
  rw [read_tables] at ht
  obtain ⟨d, hd, rfl⟩ := List.mem_map.1 ht
  have hnamed := merged_named (kinds_named cs) d (List.mem_filter.1 hd).1
  exact fun he => hnamed.2.1 (String.toList_eq_nil_iff.2 he)

end MySql

namespace Driver

/-- What a script declares, by grammars that accept or refuse texts. -/
def readBy (parse : Sql.Dialect → List Char → Except Refusal (List Statement)) :
    Driver → List Char → Except Fault Extraction
  | .postgres, cs => Postgres.read (parse .postgres) cs
  | .mysql, cs => .ok (MySql.read cs)
  | .sqlserver, cs => .ok (SqlServer.read (parse .tsql) cs)

theorem readBy_parse (d : Driver) (cs : List Char) : d.readBy Sql.parse cs = d.read cs := by
  cases d <;> rfl

/-- The texts in a script that a table is read from, since the grammar refuses them. -/
def recovered (parse : Sql.Dialect → List Char → Except Refusal (List Statement)) :
    Driver → List Char → List (List Char)
  | .postgres, cs => Postgres.recovered (parse .postgres) cs
  | .mysql, _ => []
  | .sqlserver, cs => SqlServer.recovered (parse .tsql) cs

/-- **Where every table is named.** If the grammars accept no empty names, then every table that a
script declares has a name, and in T-SQL a schema, just where every text that a table is read from
because the grammar refuses it gives its table these names by words other than empty quotes. Dumps
have no such texts. -/
theorem tables_named_iff
    (parse : Sql.Dialect → List Char → Except Refusal (List Statement))
    (hparse : ∀ dialect cs statements, parse dialect cs = .ok statements →
      ∀ s ∈ statements, s.Named)
    (d : Driver) (cs : List Char) (x : Extraction) (hx : d.readBy parse cs = .ok x) :
    (∀ t ∈ x.tables, d.Named t) ↔
      ∀ u ∈ d.recovered parse cs, d.NamedByWords (Script.nameWords u) := by
  cases d with
  | postgres => exact Postgres.read_named_iff (hparse .postgres) hx
  | mysql =>
    cases hx
    have hnamed : ∀ t ∈ (MySql.read cs).tables, Driver.mysql.Named t :=
      fun t ht => ⟨MySql.read_named cs t ht, fun h => nomatch h⟩
    simpa [recovered] using hnamed
  | sqlserver =>
    cases hx
    exact SqlServer.read_named_iff (hparse .tsql) cs

/-- The grammar of a dialect, which here refuses names with empty parts, too. -/
def parseNamed (dialect : Sql.Dialect) (cs : List Char) : Except Refusal (List Statement) :=
  match Sql.parse dialect cs with
  | .ok statements =>
    if ∀ s ∈ statements, s.Named then .ok statements else .error (.expected "identifier" none)
  | .error reason => .error reason

theorem parseNamed_named (dialect : Sql.Dialect) (cs : List Char) (statements : List Statement)
    (h : parseNamed dialect cs = .ok statements) : ∀ s ∈ statements, s.Named := by
  unfold parseNamed at h
  split at h
  · split at h
    · cases h
      assumption
    · cases h
  · cases h

/-- A table with a clause that the grammar refuses, and a name in brackets. -/
theorem tables_named_stored :
    (SqlServer.read (parseNamed .tsql) "CREATE TABLE dbo.[a] (x INT) ON [PRIMARY]".toList).tables =
        [⟨"dbo", "a", [⟨"x", some "INT"⟩]⟩] ∧
      ∀ t ∈ (SqlServer.read (parseNamed .tsql)
        "CREATE TABLE dbo.[a] (x INT) ON [PRIMARY]".toList).tables, Driver.sqlserver.Named t := by
  have hrec : recovered parseNamed .sqlserver "CREATE TABLE dbo.[a] (x INT) ON [PRIMARY]".toList =
      ["CREATE TABLE dbo.[a] (x INT) ON [PRIMARY]\n".toList] := by decide +kernel
  have hwords : Script.nameWords "CREATE TABLE dbo.[a] (x INT) ON [PRIMARY]\n".toList =
      ["dbo".toList, "[a]".toList] := by decide +kernel
  refine ⟨by decide +kernel,
    (tables_named_iff parseNamed parseNamed_named .sqlserver _ _ rfl).2 ?_⟩
  rw [hrec]
  intro u hu
  obtain rfl := List.mem_singleton.1 hu
  rw [hwords]
  refine ⟨⟨_, rfl, by decide⟩, fun _ w hw => ?_⟩
  cases hw
  decide

/-- The same with nothing between the brackets: the table has no name, though the grammar has
refused the statement. -/
theorem table_without_name :
    (Sql.parse .tsql "CREATE TABLE dbo.[] (a INT) ON [PRIMARY]".toList).isOk = false ∧
      (SqlServer.read (Sql.parse .tsql) "CREATE TABLE dbo.[] (a INT) ON [PRIMARY]".toList).tables =
        [⟨"dbo", "", [⟨"a", some "INT"⟩]⟩] ∧
      ¬ ∀ (parse : Sql.Dialect → List Char → Except Refusal (List Statement)),
        (∀ dialect cs statements, parse dialect cs = .ok statements →
          ∀ s ∈ statements, s.Named) →
        ∀ (d : Driver) (cs : List Char) (x : Extraction), d.readBy parse cs = .ok x →
          ∀ t ∈ x.tables, d.Named t := by
  refine ⟨by decide +kernel, by decide +kernel, fun h => ?_⟩
  have hread : (SqlServer.read (parseNamed .tsql)
      "CREATE TABLE dbo.[] (a INT) ON [PRIMARY]".toList).tables =
        [⟨"dbo", "", [⟨"a", some "INT"⟩]⟩] := by decide +kernel
  have hnamed := h parseNamed parseNamed_named .sqlserver
    "CREATE TABLE dbo.[] (a INT) ON [PRIMARY]".toList _ rfl
  rw [hread] at hnamed
  exact (hnamed _ List.mem_cons_self).1 rfl

end Driver
end SchemaMap
