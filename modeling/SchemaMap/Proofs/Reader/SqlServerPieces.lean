/-
# A table and the lines that cut its batch

A script without separators is one batch, and where the grammar refuses it, it is cut at the lines
that begin a statement by their first word. Where no line does, it is read from its text, and a table
that is read from the script is kept; the text is put together of the lines of the script, so it ends
them with line feeds only. Where a line does, what stands in front of it and what stands from it on
are units of their own, even if the line stands in the column list of the table: the table is kept
just where one of the units declares it and the grammar accepts all others, and they create nothing.

Key definitions: `SqlServer.onlyTable`.
Key theorems: `Extraction.concat_eq_only_iff`, `SqlServer.ofRefused_eq_only_iff`,
`Script.tableDeclared?_bodyLines`, `SqlServer.table_kept_iff`.
-/
import SchemaMap.Proofs.Reader.SqlServerBatches
import SchemaMap.Proofs.Script.Followed
import Mathlib.Data.List.Infix

namespace SchemaMap

namespace Extraction

theorem append_eq_empty_iff {x y : Extraction} : x.append y = {} ↔ x = {} ∧ y = {} := by
  obtain ⟨xt, xd⟩ := x
  obtain ⟨yt, yd⟩ := y
  simp only [append, mk.injEq, List.append_eq_nil_iff]
  tauto

/-- Nothing is declared where no part declares anything. -/
theorem concat_eq_empty_iff : ∀ {xs : List Extraction}, concat xs = {} ↔ ∀ x ∈ xs, x = {}
  | [] => iff_of_true rfl (List.forall_mem_nil _)
  | x :: xs => by
    have hcons : concat (x :: xs) = x.append (concat xs) := rfl
    rw [hcons, append_eq_empty_iff, concat_eq_empty_iff, List.forall_mem_cons]

theorem append_eq_only_iff {x y : Extraction} {t : Table} :
    x.append y = { tables := [t] } ↔
      (x = { tables := [t] } ∧ y = {}) ∨ (x = {} ∧ y = { tables := [t] }) := by
  obtain ⟨xt, xd⟩ := x
  obtain ⟨yt, yd⟩ := y
  simp only [append, mk.injEq, List.append_eq_nil_iff, List.append_eq_singleton_iff]
  tauto

/-- One table is declared, and nothing else, just where one part declares it and no other part
declares anything. -/
theorem concat_eq_only_iff {t : Table} : ∀ {xs : List Extraction},
    concat xs = { tables := [t] } ↔
      ∃ before after, xs = before ++ { tables := [t] } :: after ∧ ∀ x ∈ before ++ after, x = {}
  | [] => by
    constructor
    · intro h
      cases h
    · rintro ⟨before, after, h, -⟩
      exact absurd h (by simp)
  | x :: xs => by
    have hcons : concat (x :: xs) = x.append (concat xs) := rfl
    rw [hcons, append_eq_only_iff, concat_eq_empty_iff, concat_eq_only_iff]
    constructor
    · rintro (⟨rfl, hrest⟩ | ⟨rfl, before, after, rfl, hothers⟩)
      · exact ⟨[], xs, rfl, hrest⟩
      · exact ⟨{} :: before, after, rfl, List.forall_mem_cons.2 ⟨rfl, hothers⟩⟩
    · rintro ⟨_ | ⟨first, before⟩, after, hxs, hothers⟩
      · obtain ⟨rfl, rfl⟩ := List.cons.inj hxs
        exact .inl ⟨rfl, hothers⟩
      · obtain ⟨rfl, rfl⟩ := List.cons.inj hxs
        obtain ⟨hfirst, hrest⟩ := List.forall_mem_cons.1 hothers
        exact .inr ⟨hfirst, before, after, rfl, hrest⟩

end Extraction

namespace Script

open Text (lines isBlankText unlines)

/-- What is blank declares no table. -/
theorem bodyLines_ne_nil {cs : List Char} {r : TableText} (h : tableDeclared? cs = some r) :
    bodyLines cs ≠ [] := by
  intro hnil
  have hlines : ∀ l ∈ lines cs, isBlankText l = true := List.dropWhile_eq_nil_iff.1 hnil
  have hblank : isBlankText cs = true := Text.isBlankText_of_lines hlines
  have hnone : tableDeclared? [] = none := rfl
  have hempty := tableDeclared?_behind_blanks (List.all_eq_true.1 hblank) []
  rw [List.append_nil, h, hnone] at hempty
  cases hempty

/-- The lines of a script declare the table that the script declares, if no line end is changed. -/
theorem tableDeclared?_bodyLines {cs : List Char} {r : TableText} (h : tableDeclared? cs = some r)
    (hends : ¬['\r', '\n'] <:+: cs) : tableDeclared? (unlines (bodyLines cs)) = some r := by
  obtain ⟨feed, hfeed⟩ := Text.unlines_lines hends
  obtain ⟨u, v, rfl, hclosed⟩ := tableDeclared?_closed h
  have hall : tableDeclared? (unlines (lines (u ++ ')' :: v))) = some r := by
    rw [hfeed, List.append_assoc, List.cons_append]
    exact hclosed _
  have hblank : ∀ c ∈ unlines ((lines (u ++ ')' :: v)).takeWhile isBlankText),
      Text.isBlank c = true := by
    intro c hc
    obtain ⟨l, hl, hcl⟩ := List.mem_flatMap.1 hc
    have hline : isBlankText l = true := List.all_eq_true.1 List.all_takeWhile l hl
    rcases List.mem_append.1 hcl with hcl | hcl
    · exact List.all_eq_true.1 hline c hcl
    · rw [List.mem_singleton.1 hcl]
      decide
  rwa [← List.takeWhile_append_dropWhile (p := isBlankText) (l := lines (u ++ ')' :: v)),
    Text.unlines_append, tableDeclared?_behind_blanks hblank] at hall

end Script

namespace SqlServer

open Sql (Refusal Statement)
open Script (batches pieces tableDeclared? bodyLines wholeBatch IsCut isSeparator)
open Text (lines unlines)

/-- One table that was read from text, and nothing else. -/
def onlyTable (r : TableText) : Extraction :=
  { tables := [tableNamed r.nameParts r.columns] }

section

variable {parse : List Char → Except Refusal (List Statement)}

theorem ofRefused_eq (kind : String) (unit : Chunk) (reason : Refusal) {r : TableText}
    (h : tableDeclared? unit.text = some r) : ofRefused kind unit reason = onlyTable r := by
  rw [ofRefused, h]
  rfl

/-- A refused unit leaves the table that is read from its text, and no other. -/
theorem ofRefused_eq_only_iff (kind : String) (unit : Chunk) (reason : Refusal) (r : TableText) :
    ofRefused kind unit reason = onlyTable r ↔
      (tableDeclared? unit.text).map onlyTable = some (onlyTable r) := by
  cases h : tableDeclared? unit.text with
  | some s => rw [ofRefused_eq kind unit reason h, Option.map_some, Option.some_inj]
  | none =>
    rw [ofRefused, h]
    exact iff_of_false (fun he => by cases congrArg Extraction.tables he) (fun he => by cases he)

/-- Of a unit nothing is left only if the grammar accepts it. -/
theorem ofUnit_eq_empty_iff (kind : String) (unit : Chunk) :
    ofUnit parse kind unit = {} ↔
      ∃ statements, parse unit.text = .ok statements ∧ ofStatements statements = {} := by
  unfold ofUnit
  cases parse unit.text with
  | ok statements => simp
  | error reason =>
    unfold ofRefused
    cases tableDeclared? unit.text <;> simp

/-- Of units one table is left, and nothing else, just where one of them leaves it and the grammar
accepts all others, and they create nothing. -/
theorem concat_units_eq_only_iff (kind : String) (units : List Chunk) (r : TableText) :
    Extraction.concat (units.map (ofUnit parse kind)) = onlyTable r ↔
      ∃ before unit after, units = before ++ unit :: after ∧
        ofUnit parse kind unit = onlyTable r ∧
        ∀ other ∈ before ++ after, ∃ statements,
          parse other.text = .ok statements ∧ ofStatements statements = {} := by
  rw [onlyTable, Extraction.concat_eq_only_iff]
  constructor
  · rintro ⟨before, after, hunits, hothers⟩
    obtain ⟨front, back, rfl, rfl, hback⟩ := List.map_eq_append_iff.1 hunits
    obtain ⟨unit, behind, rfl, hunit, rfl⟩ := List.map_eq_cons_iff.1 hback
    refine ⟨front, unit, behind, rfl, hunit, fun other hother => ?_⟩
    rw [← List.map_append] at hothers
    exact (ofUnit_eq_empty_iff kind other).1 (List.forall_mem_map.1 hothers other hother)
  · rintro ⟨before, unit, after, rfl, hunit, hothers⟩
    refine ⟨before.map (ofUnit parse kind), after.map (ofUnit parse kind), ?_, ?_⟩
    · rw [List.map_append, List.map_cons, hunit]
    · rw [← List.map_append]
      exact List.forall_mem_map.2 fun other hother =>
        (ofUnit_eq_empty_iff kind other).2 (hothers other hother)

theorem ofBatch_uncut {batch : Chunk} {reason : Refusal} (hp : parse batch.text = .error reason)
    (h : (pieces batch).length < 2) : ofBatch parse batch = ofRefused "batch" batch reason := by
  unfold ofBatch
  rw [hp]
  rcases hps : pieces batch with _ | ⟨p, _ | ⟨q, ps⟩⟩
  · rfl
  · rfl
  · rw [hps] at h
    exact absurd h (by simp)

theorem ofBatch_cut {batch : Chunk} {reason : Refusal} (hp : parse batch.text = .error reason)
    (h : 2 ≤ (pieces batch).length) :
    ofBatch parse batch = Extraction.concat ((pieces batch).map (ofUnit parse "statement")) := by
  unfold ofBatch
  rw [hp]
  rcases hps : pieces batch with _ | ⟨p, _ | ⟨q, ps⟩⟩
  · rw [hps] at h
    exact absurd h (by simp)
  · rw [hps] at h
    exact absurd h (by simp)
  · rfl

end

variable (parse : List Char → Except Refusal (List Statement))

/-- **Where a readable table is kept.** Let a script without separators declare a table by its text,
and let the grammar refuse it. If no line behind the first that is not blank begins a statement, then
the script declares this table and nothing else, unless its text changes with its line ends. If a line
does, the script declares this table and nothing else just where one piece does, and the grammar
accepts all others as statements that create no table. -/
theorem table_kept_iff {cs : List Char} {r : TableText}
    (hgo : ∀ l ∈ lines cs, isSeparator l = false)
    (href : ∀ batch ∈ batches cs, ∃ reason, parse batch.text = .error reason)
    (h : tableDeclared? cs = some r) :
    (¬IsCut cs → ¬['\r', '\n'] <:+: cs → read parse cs = onlyTable r) ∧
      (¬IsCut cs → (read parse cs = onlyTable r ↔
        (tableDeclared? (unlines (bodyLines cs))).map onlyTable = some (onlyTable r))) ∧
      (IsCut cs → (read parse cs = onlyTable r ↔
        ∃ before piece after, pieces (wholeBatch cs) = before ++ piece :: after ∧
          ofUnit parse "statement" piece = onlyTable r ∧
          ∀ other ∈ before ++ after, ∃ statements,
            parse other.text = .ok statements ∧ ofStatements statements = {})) := by
  have hne := Script.bodyLines_ne_nil h
  have hbatches := Script.batches_unseparated hgo hne
  have hread : read parse cs = ofBatch parse (wholeBatch cs) := by
    rw [read, hbatches]
    exact concat_singleton _
  obtain ⟨reason, hp⟩ := href (wholeBatch cs) (by rw [hbatches]; exact List.mem_cons_self)
  have huncut (hcut : ¬IsCut cs) : read parse cs = ofRefused "batch" (wholeBatch cs) reason := by
    rw [hread]
    exact ofBatch_uncut hp (Nat.lt_of_not_le fun hlen =>
      hcut ((Script.two_le_length_pieces_iff hne).1 hlen))
  refine ⟨fun hcut hends => ?_, fun hcut => ?_, fun hcut => ?_⟩
  · rw [huncut hcut]
    exact ofRefused_eq "batch" _ reason (Script.tableDeclared?_bodyLines h hends)
  · rw [huncut hcut]
    exact ofRefused_eq_only_iff "batch" _ reason r
  · rw [hread, ofBatch_cut hp ((Script.two_le_length_pieces_iff hne).2 hcut)]
    exact concat_units_eq_only_iff _ _ r

/-- A column list on lines of its own, none of which begins a statement. -/
theorem table_kept_storage :
    (∀ l ∈ lines "\nCREATE TABLE t (\n  a INT\n) ON [PRIMARY]".toList, isSeparator l = false) ∧
      (∀ batch ∈ batches "\nCREATE TABLE t (\n  a INT\n) ON [PRIMARY]".toList,
        ∃ reason, Sql.parse .tsql batch.text = .error reason) ∧
      tableDeclared? "\nCREATE TABLE t (\n  a INT\n) ON [PRIMARY]".toList =
        some ⟨["t"], [⟨"a", some "INT"⟩]⟩ ∧
      read (Sql.parse .tsql) "\nCREATE TABLE t (\n  a INT\n) ON [PRIMARY]".toList =
        onlyTable ⟨["t"], [⟨"a", some "INT"⟩]⟩ :=
  have hgo : ∀ l ∈ lines "\nCREATE TABLE t (\n  a INT\n) ON [PRIMARY]".toList,
      isSeparator l = false := by decide +kernel
  have href : ∀ batch ∈ batches "\nCREATE TABLE t (\n  a INT\n) ON [PRIMARY]".toList,
      ∃ reason, Sql.parse .tsql batch.text = .error reason := fun batch hbatch =>
    refused_of_isOk (p := ⟨"batch", batch⟩) _ (by revert batch; decide +kernel)
  have h : tableDeclared? "\nCREATE TABLE t (\n  a INT\n) ON [PRIMARY]".toList =
      some ⟨["t"], [⟨"a", some "INT"⟩]⟩ := by decide +kernel
  ⟨hgo, href, h, (table_kept_iff (Sql.parse .tsql) hgo href h).1 (by decide +kernel) (by decide)⟩

/-- A foreign key whose action stands on a line of its own that begins with the word `SET`. -/
def actionOnLine : List Char :=
  "CREATE TABLE t (\n  a INT REFERENCES u (id) ON DELETE\n  SET NULL\n) ON [PRIMARY]\n".toList

/-- A refused script that is one statement and declares a table by its text, and whose table is
dropped. -/
theorem table_dropped :
    (∀ l ∈ lines actionOnLine, isSeparator l = false) ∧
      (Script.chunks actionOnLine).length = 1 ∧
      (∀ batch ∈ batches actionOnLine, (Sql.parse .tsql batch.text).isOk = false) ∧
      tableDeclared? actionOnLine = some ⟨["t"], [⟨"a", some "INT"⟩]⟩ ∧
      (read (Sql.parse .tsql) actionOnLine).tables = [] := by
  decide +kernel

end SqlServer
end SchemaMap
