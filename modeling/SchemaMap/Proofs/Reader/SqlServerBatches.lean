/-
# What the batches of a T-SQL script declare

A script is read part by part (`SqlServer.parts`): a batch at once where the grammar accepts it or
it has one piece only, and otherwise its pieces. Two things are told of the parts.

What one of them declares does not depend on the others, nor on where it stands, but for the lines
in its notes (`ofBatch_moved`). So a script with a separator declares what its two sides declare
(`read_separated`).

A part that the grammar refuses leaves one trace, a table or a note (`traces_of_refused`), and not
more than one: of several tables that are created in it only the first is read. So every created
table leaves a trace just where no refused part creates two of them (`created_traced_iff`).

Key definitions: `SqlServer.Part`, `SqlServer.parts`, `SqlServer.Part.created`,
`Extraction.traces`, `Extraction.moved`.
Key theorems: `SqlServer.ofBatch_moved`, `SqlServer.read_separated`, `SqlServer.read_eq_parts`,
`SqlServer.traces_of_refused`, `SqlServer.created_traced_iff`.
-/
import SchemaMap.Reader.SqlServer
import SchemaMap.Proofs.Script.Batches

namespace SchemaMap

/-- A note, `k` lines further down. -/
def Diagnostic.moved (k : Nat) (d : Diagnostic) : Diagnostic :=
  { d with line := d.line.map (· + k) }

namespace Extraction

/-- What a script declares that stands `k` lines further down. -/
def moved (k : Nat) (x : Extraction) : Extraction :=
  { x with diagnostics := x.diagnostics.map (Diagnostic.moved k) }

/-- The number of tables and notes. -/
def traces (x : Extraction) : Nat :=
  x.tables.length + x.diagnostics.length

theorem append_moved (k : Nat) (x y : Extraction) :
    (x.append y).moved k = (x.moved k).append (y.moved k) := by
  simp [append, moved]

theorem concat_moved (k : Nat) : ∀ xs : List Extraction,
    concat (xs.map (moved k)) = (concat xs).moved k
  | [] => rfl
  | x :: xs => by
    have ih := concat_moved k xs
    show (x.moved k).append (concat (xs.map (moved k))) = (x.append (concat xs)).moved k
    rw [ih, append_moved]

theorem append_assoc (x y z : Extraction) : (x.append y).append z = x.append (y.append z) := by
  simp [append]

theorem empty_append (x : Extraction) : append {} x = x := rfl

theorem concat_append : ∀ xs ys : List Extraction,
    concat (xs ++ ys) = (concat xs).append (concat ys)
  | [], ys => (empty_append _).symm
  | x :: xs, ys => by
    have ih := concat_append xs ys
    show x.append (concat (xs ++ ys)) = (x.append (concat xs)).append (concat ys)
    rw [ih, append_assoc]

end Extraction

namespace SqlServer

open Sql (Refusal Statement)
open Script (batches pieces)
open Text (lines)

variable (parse : List Char → Except Refusal (List Statement))

/-! ### Where a part stands -/

theorem ofRefused_moved (k : Nat) (kind : String) (unit : Chunk) (reason : Refusal) :
    ofRefused kind (unit.moved k) reason = (ofRefused kind unit reason).moved k := by
  unfold ofRefused Chunk.moved
  cases Script.tableDeclared? unit.text <;> rfl

theorem ofUnit_moved (k : Nat) (kind : String) (unit : Chunk) :
    ofUnit parse kind (unit.moved k) = (ofUnit parse kind unit).moved k := by
  unfold ofUnit
  rw [Chunk.moved_text]
  cases parse unit.text with
  | ok statements => rfl
  | error reason => exact ofRefused_moved k kind unit reason

/-- A batch declares the same wherever it stands, with its notes at their lines. -/
theorem ofBatch_moved (k : Nat) (batch : Chunk) :
    ofBatch parse (batch.moved k) = (ofBatch parse batch).moved k := by
  unfold ofBatch
  rw [Script.pieces_moved, Chunk.moved_text]
  cases parse batch.text with
  | ok statements => rfl
  | error reason =>
    rcases pieces batch with _ | ⟨p, _ | ⟨q, ps⟩⟩
    · exact ofRefused_moved k "batch" batch reason
    · exact ofRefused_moved k "batch" batch reason
    · have hmap : ((p :: q :: ps).map (Chunk.moved k)).map (ofUnit parse "statement") =
          ((p :: q :: ps).map (ofUnit parse "statement")).map (Extraction.moved k) := by
        rw [List.map_map, List.map_map]
        exact List.map_congr_left fun u _ => ofUnit_moved parse k "statement" u
      exact (congrArg Extraction.concat hmap).trans (Extraction.concat_moved k _)

/-- **Batches are independent.** Whatever the grammar accepts or refuses, a script whose whole
lines `a` and whose rest `b` stand on two sides of a separator declares the tables of `a` and then
those of `b`, with the notes of `a` and then those of `b`, moved down by the lines of `a` and the
separator. -/
theorem read_separated (a b : List Char) (ha : Text.WholeLines a) :
    (read parse (a ++ ("GO\n".toList ++ b))).tables =
        (read parse a).tables ++ (read parse b).tables ∧
      (read parse (a ++ ("GO\n".toList ++ b))).diagnostics =
        (read parse a).diagnostics ++
          (read parse b).diagnostics.map (Diagnostic.moved ((lines a).length + 1)) := by
  have hsep : Script.isSeparator (Text.dropReturn ['G', 'O']) = true := by decide
  have hcut := Script.batches_separated ha hsep (by decide) b
  have hmoved : ((batches b).map (Chunk.moved ((lines a).length + 1))).map (ofBatch parse) =
      ((batches b).map (ofBatch parse)).map (Extraction.moved ((lines a).length + 1)) := by
    rw [List.map_map, List.map_map]
    exact List.map_congr_left fun batch _ => ofBatch_moved parse _ batch
  have hread : read parse (a ++ (['G', 'O'] ++ '\n' :: b)) =
      (read parse a).append ((read parse b).moved ((lines a).length + 1)) := by
    unfold read
    rw [hcut, List.map_append, Extraction.concat_append, hmoved, Extraction.concat_moved]
  have htext : a ++ ("GO\n".toList ++ b) = a ++ (['G', 'O'] ++ '\n' :: b) := rfl
  rw [htext, hread]
  exact ⟨rfl, rfl⟩

/-- A refused batch with two pieces in front of a separator, and one with a note behind it. -/
theorem read_separated_refused :
    Text.WholeLines "CREATE TABLE a (x INT) ON [PRIMARY]\nPRINT 1\n".toList ∧
      (read (Sql.parse .tsql) ("CREATE TABLE a (x INT) ON [PRIMARY]\nPRINT 1\n".toList
          ++ ("GO\n".toList ++ "\nNO SQL\nGO\n".toList))).diagnostics =
        (read (Sql.parse .tsql)
            "CREATE TABLE a (x INT) ON [PRIMARY]\nPRINT 1\n".toList).diagnostics ++
          (read (Sql.parse .tsql) "\nNO SQL\nGO\n".toList).diagnostics.map
            (Diagnostic.moved 3) :=
  have h : Text.WholeLines "CREATE TABLE a (x INT) ON [PRIMARY]\nPRINT 1\n".toList :=
    .inr (by decide)
  ⟨h, (read_separated (Sql.parse .tsql) _ "\nNO SQL\nGO\n".toList h).2⟩

/-! ### The traces of a part -/

/-- A part of a script that is read at once: a batch, or a piece of one. -/
structure Part where
  kind : String
  chunk : Chunk
deriving DecidableEq, Repr

/-- What a part declares. -/
def Part.declares (p : Part) : Extraction :=
  ofUnit parse p.kind p.chunk

/-- Whether the grammar refuses a part. -/
def Part.Refused (p : Part) : Prop :=
  ∃ reason, parse p.chunk.text = .error reason

/-- The statements of a part that create tables. -/
def Part.created (p : Part) : List Chunk :=
  (Script.chunks p.chunk.text).filter fun s => Script.isCreateTable s.text

/-- The parts of a batch. -/
def partsOfBatch (batch : Chunk) : List Part :=
  match parse batch.text, pieces batch with
  | .error _, p :: q :: more => (p :: q :: more).map fun piece => ⟨"statement", piece⟩
  | _, _ => [⟨"batch", batch⟩]

/-- The parts of a script in order. -/
def parts (cs : List Char) : List Part :=
  (batches cs).flatMap (partsOfBatch parse)

theorem concat_singleton (x : Extraction) : Extraction.concat [x] = x := by
  simp [Extraction.concat, Extraction.append]

theorem ofBatch_eq_parts (batch : Chunk) :
    ofBatch parse batch = Extraction.concat ((partsOfBatch parse batch).map (Part.declares parse))
      := by
  unfold ofBatch partsOfBatch
  cases hp : parse batch.text with
  | ok statements =>
    have hunit : ofUnit parse "batch" batch = ofStatements statements := by
      rw [ofUnit, hp]
    exact hunit.symm.trans (concat_singleton _).symm
  | error reason =>
    have hunit : ofUnit parse "batch" batch = ofRefused "batch" batch reason := by
      rw [ofUnit, hp]
    rcases pieces batch with _ | ⟨p, _ | ⟨q, more⟩⟩
    · exact hunit.symm.trans (concat_singleton _).symm
    · exact hunit.symm.trans (concat_singleton _).symm
    · simp only [List.map_map]
      rfl

/-- A script declares what its parts declare, one behind the other. -/
theorem read_eq_parts (cs : List Char) :
    read parse cs = Extraction.concat ((parts parse cs).map (Part.declares parse)) := by
  unfold read parts
  induction batches cs with
  | nil => rfl
  | cons batch more ih =>
    rw [List.flatMap_cons, List.map_append, Extraction.concat_append, ← ih, ← ofBatch_eq_parts]
    rfl

/-- A refused part leaves one trace: the table that is read from it, or a note at its line. -/
theorem traces_of_refused {p : Part} (h : p.Refused parse) : (p.declares parse).traces = 1 := by
  obtain ⟨reason, hr⟩ := h
  unfold Part.declares ofUnit ofRefused
  rw [hr]
  cases Script.tableDeclared? p.chunk.text <;> rfl

/-- **Where created tables leave a trace.** A script declares what its parts declare, and the
tables and notes of a refused part are as many as the tables that its statements create just where
they create no more than one. -/
theorem created_traced_iff (cs : List Char) :
    read parse cs = Extraction.concat ((parts parse cs).map (Part.declares parse)) ∧
      ∀ p ∈ parts parse cs, p.Refused parse →
        (p.created.length ≤ (p.declares parse).traces ↔ p.created.length ≤ 1) := by
  refine ⟨read_eq_parts parse cs, fun p _ hp => ?_⟩
  rw [traces_of_refused parse hp]

theorem refused_of_isOk {p : Part} (h : (parse p.chunk.text).isOk = false) : p.Refused parse := by
  cases hp : parse p.chunk.text with
  | ok statements => rw [hp] at h; cases h
  | error reason => exact ⟨reason, hp⟩

/-- A refused piece that creates one table, which is read from its text. -/
def storedPiece : Part :=
  ⟨"statement", ⟨2, "CREATE TABLE a (x INT) ON [PRIMARY]\n".toList⟩⟩

theorem created_traced_stored :
    storedPiece ∈ parts (Sql.parse .tsql) "PRINT 1\nCREATE TABLE a (x INT) ON [PRIMARY]".toList ∧
      storedPiece.Refused (Sql.parse .tsql) ∧
      storedPiece.created.length ≤ (storedPiece.declares (Sql.parse .tsql)).traces :=
  have hmem : storedPiece ∈
      parts (Sql.parse .tsql) "PRINT 1\nCREATE TABLE a (x INT) ON [PRIMARY]".toList := by
    decide +kernel
  have href : storedPiece.Refused (Sql.parse .tsql) := refused_of_isOk _ (by decide +kernel)
  ⟨hmem, href, ((created_traced_iff (Sql.parse .tsql) _).2 _ hmem href).2 (by decide +kernel)⟩

/-- A refused batch on one line that creates two tables. -/
def crowdedBatch : Part :=
  ⟨"batch", ⟨1,
    "CREATE TABLE a (x INT) ON [PRIMARY]; CREATE TABLE b (y INT) ON [PRIMARY];\n".toList⟩⟩

/-- Of two tables that a refused batch creates, the second leaves neither a table nor a note. -/
theorem second_table_lost :
    crowdedBatch ∈ parts (Sql.parse .tsql)
        "CREATE TABLE a (x INT) ON [PRIMARY]; CREATE TABLE b (y INT) ON [PRIMARY];".toList ∧
      crowdedBatch.Refused (Sql.parse .tsql) ∧
      ¬ crowdedBatch.created.length ≤ (crowdedBatch.declares (Sql.parse .tsql)).traces := by
  have hmem : crowdedBatch ∈ parts (Sql.parse .tsql)
      "CREATE TABLE a (x INT) ON [PRIMARY]; CREATE TABLE b (y INT) ON [PRIMARY];".toList := by
    decide +kernel
  have href : crowdedBatch.Refused (Sql.parse .tsql) := refused_of_isOk _ (by decide +kernel)
  refine ⟨hmem, href, ?_⟩
  rw [traces_of_refused _ href]
  decide +kernel

end SqlServer
end SchemaMap
