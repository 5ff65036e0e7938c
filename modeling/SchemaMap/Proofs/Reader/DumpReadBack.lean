/-
# A MySQL dump reads back

A scan of written lines does what the lines were written for (`takeAll_text`), so a dump can be
followed table by table, without its text. A table leaves no declaration open: its header sets
the schema whatever was chosen before, its columns go to it alone, and its last line closes it
(`follow_block`). Over a whole dump no note is taken, and tables with different names stay apart
(`follow_blocks`).

Key definitions: `MySql.Scan.follow`, `Dump.Block.declared`.
Key theorems: `MySql.Scan.takeAll_text`, `MySql.Scan.follow_block`, `MySql.Scan.follow_blocks`,
`MySql.dump_reads_back`.
-/
import SchemaMap.Reader.Driver
import SchemaMap.Proofs.Reader.DumpDeclarations
import SchemaMap.Proofs.Reader.DumpLayout

namespace SchemaMap

/-- The declaration that a written table makes. -/
def Dump.Block.declared (b : Dump.Block) : MySql.Declared :=
  ⟨b.schema.text, b.name.text, b.columns.map fun c => c.name.text⟩

namespace MySql

open Dump Text

/-! ### The lines of a text -/

/-- A scan sees neither how its lines end nor a last line that is empty. -/
theorem takeAll_ended : ∀ (parts : List (List Char)) (s : Scan) (line : Nat),
    s.takeAll line (lines.ended parts) = s.takeAll line parts
  | [], _, _ => rfl
  | [[]], _, _ => rfl
  | [_ :: _], _, _ => rfl
  | part :: next :: parts, s, line => by
    have hended : lines.ended (part :: next :: parts) =
        dropReturn part :: lines.ended (next :: parts) := rfl
    rw [hended, Scan.takeAll, Scan.takeAll, trim_dropReturn]
    exact takeAll_ended (next :: parts) _ _

/-! ### What the lines were written for -/

namespace Scan

/-- What an entry does to a scan. -/
def follow (s : Scan) (line : Nat) : Entry → Scan
  | .aside _ => s
  | .use schema => { s with currentSchema := schema.text }
  | .create (some schema) name =>
    { s with currentSchema := schema.text }.openTable line name.text
  | .create none name => s.openTable line name.text
  | .column c => s.addColumn c.name.text
  | .key _ => s
  | .close _ => s.take line [] .close

/-- Entries in order, the first of them on the line `line`. -/
def followAll (s : Scan) (line : Nat) : List Entry → Scan
  | [] => s
  | e :: es => (s.follow line e).followAll (line + 1) es

theorem take_of_says {e : Entry} {k : DumpLine} (h : e.Says k) (s : Scan) (line : Nat)
    (cs : List Char) : s.take line cs k = s.follow line e := by
  cases e with
  | aside a => cases h; rfl
  | use schema => cases h; rfl
  | create schema name => cases h; cases schema <;> rfl
  | column c => cases h; rfl
  | key key => rcases h with rfl | rfl <;> rfl
  | close rest => cases h; rfl

theorem takeAll_raw : ∀ (ls : List Line) (s : Scan) (line : Nat),
    s.takeAll line (ls.map Line.raw) = s.followAll line (ls.map (·.entry))
  | [], _, _ => rfl
  | l :: ls, s, line => by
    rw [List.map_cons, List.map_cons, takeAll, followAll, take_of_says l.says]
    exact takeAll_raw ls _ _

/-- **A scan of written lines follows what they were written for.** -/
theorem takeAll_text (ls : List Line) (s : Scan) (line : Nat) :
    s.takeAll line (lines (Dump.text ls)) = s.followAll line (ls.map (·.entry)) := by
  rw [lines, takeAll_ended]
  by_cases hls : ls = []
  · subst hls
    rfl
  · rw [splitOn_text hls, takeAll_raw]

theorem followAll_append : ∀ (es fs : List Entry) (s : Scan) (line : Nat),
    s.followAll line (es ++ fs) = (s.followAll line es).followAll (line + es.length) fs
  | [], _, _, _ => rfl
  | e :: es, fs, s, line => by
    rw [List.cons_append, followAll, followAll, followAll_append es fs, List.length_cons,
      Nat.add_right_comm, Nat.add_assoc]

theorem followAll_asides : ∀ (as : List Aside) (s : Scan) (line : Nat),
    s.followAll line (as.map .aside) = s
  | [], _, _ => rfl
  | _ :: as, s, line => followAll_asides as s (line + 1)

theorem followAll_keys : ∀ (ks : List KeyLine) (s : Scan) (line : Nat),
    s.followAll line (ks.map .key) = s
  | [], _, _ => rfl
  | _ :: ks, s, line => followAll_keys ks s (line + 1)

/-! ### One table -/

/-- With a schema and no open table, a table is opened without a note. -/
theorem openTable_of_closed {s : Scan} (hs : s.current = none) (hschema : s.currentSchema ≠ "")
    (line : Nat) (name : String) :
    s.openTable line name = { s with current := some ⟨⟨s.currentSchema, name, []⟩, line⟩ } := by
  simp [openTable, hs, hschema]

/-- A header opens its table under its own schema, whatever schema was chosen before it. -/
theorem followAll_heading {s : Scan} (hs : s.current = none) (b : Block) (line : Nat) :
    ∃ opened, s.followAll line b.heading =
      { s with
        currentSchema := b.schema.text
        current := some ⟨⟨b.schema.text, b.name.text, []⟩, opened⟩ } := by
  have hschema : b.schema.text ≠ "" := fun h => b.schema.isName.1 (by rw [h]; rfl)
  have hopen (line : Nat) := openTable_of_closed
    (s := { s with currentSchema := b.schema.text }) hs hschema line b.name.text
  unfold Block.heading
  cases b.header with
  | qualified => exact ⟨line, hopen line⟩
  | used between =>
    refine ⟨line + 1 + (between.map Entry.aside).length, ?_⟩
    rw [followAll, followAll_append, followAll_asides]
    exact hopen _

/-- Column lines go to the open table, in order. -/
theorem followAll_columns : ∀ (cs : List ColumnLine) (s : Scan) (o : OpenTable) (line : Nat),
    s.current = some o → s.followAll line (cs.map .column) =
      { s with current := some { o with table := { o.table with
          columns := o.table.columns ++ cs.map fun c => c.name.text } } }
  | [], s, o, line, ho => by
    obtain ⟨schema, current, tables, notes⟩ := s
    cases ho
    simp [followAll]
  | c :: cs, s, o, line, ho => by
    have hadd : s.addColumn c.name.text = { s with current := some { o with
        table := { o.table with columns := o.table.columns ++ [c.name.text] } } } := by
      rw [addColumn, ho]
    rw [List.map_cons, followAll, follow, hadd, followAll_columns cs _ _ _ rfl]
    simp

/-- **What the lines of a table do.** Where no table is open they add its declaration, take no
note and leave no table open. -/
theorem follow_block {s : Scan} (hs : s.current = none) (b : Block) (line : Nat) :
    s.followAll line b.entries =
      { s with currentSchema := b.schema.text, tables := addTable b.declared s.tables } := by
  obtain ⟨schema, current, tables, notes⟩ := s
  cases hs
  unfold Block.entries
  rw [followAll_append, followAll_append, followAll_append, followAll_append, followAll_asides]
  obtain ⟨opened, hheading⟩ := followAll_heading (s := ⟨schema, none, tables, notes⟩) rfl b
    (line + (b.before.map Entry.aside).length)
  rw [hheading, followAll_columns _ _ _ _ rfl, followAll_keys]
  rfl

/-! ### A whole dump -/

theorem follow_blocks : ∀ (bs : List Block) {s : Scan} (_ : s.current = none) (line : Nat),
    ∃ schema, s.followAll line (bs.flatMap Block.entries) =
      { s with
        currentSchema := schema
        tables := (bs.map Block.declared).foldl (fun ts d => addTable d ts) s.tables }
  | [], s, _, _ => ⟨s.currentSchema, rfl⟩
  | b :: bs, s, hs, line => by
    have hclosed : ({ s with
        currentSchema := b.schema.text, tables := addTable b.declared s.tables } : Scan).current =
          none := hs
    rw [List.flatMap_cons, followAll_append, follow_block hs]
    exact follow_blocks bs hclosed _

end Scan

/-- A table of a new name is put behind the others. -/
theorem addTable_of_notMem {d : Declared} : ∀ {ts : List Declared},
    d.key ∉ ts.map Declared.key → addTable d ts = ts ++ [d]
  | [], _ => rfl
  | t :: ts, h => by
    rw [List.map_cons, List.mem_cons, not_or] at h
    have hsame : t.same d = false := by
      rw [Bool.eq_false_iff]
      intro hsame
      have hkey : t.key = d.key := by simpa [Declared.same, Declared.key, Prod.ext_iff] using hsame
      exact h.1 hkey.symm
    rw [addTable, hsame, addTable_of_notMem h.2]
    rfl

/-- Tables of different names stay apart. -/
theorem foldl_addTable_of_nodup : ∀ (ds ts : List Declared),
    ((ts ++ ds).map Declared.key).Nodup → ds.foldl (fun ts d => addTable d ts) ts = ts ++ ds
  | [], ts, _ => (List.append_nil ts).symm
  | d :: ds, ts, h => by
    have hnew : d.key ∉ ts.map Declared.key := by
      rw [List.map_append, List.map_cons] at h
      exact fun hm => (List.nodup_append.1 h).2.2 _ hm _ List.mem_cons_self rfl
    rw [List.append_cons] at h
    rw [List.foldl_cons, addTable_of_notMem hnew, foldl_addTable_of_nodup ds _ h,
      List.append_assoc, List.singleton_append]

/-- **A dump reads back.** A text written from tables of different names, each with columns, gives
those tables in their order, with their columns, and no note. -/
theorem dump_reads_back (bs : List Block) (after : List Aside) (ls : List Line)
    (hls : ls.map (·.entry) = Dump.entries bs after) (hn : (bs.map Block.key).Nodup) :
    Driver.mysql.read (Dump.text ls) = .ok ⟨bs.map Block.table, []⟩ := by
  obtain ⟨schema, hblocks⟩ := Scan.follow_blocks bs (s := {}) rfl 1
  have hkeys : ((bs.map Block.declared).map Declared.key).Nodup := by
    rw [List.map_map]
    exact hn
  have hscan : ({} : Scan).takeAll 1 (lines (Dump.text ls)) =
      { currentSchema := schema, tables := bs.map Block.declared } := by
    rw [Scan.takeAll_text, hls, Dump.entries, Scan.followAll_append, Scan.followAll_asides, hblocks,
      foldl_addTable_of_nodup _ _ hkeys]
    rfl
  have hcolumns : ∀ d ∈ bs.map Block.declared, d.columns.isEmpty = false := by
    intro d hd
    obtain ⟨b, -, rfl⟩ := List.mem_map.1 hd
    simpa [Block.declared] using b.columns_ne_nil
  have hkept : (bs.map Block.declared).filter (fun d => !d.columns.isEmpty) =
      bs.map Block.declared := List.filter_eq_self.2 fun d hd => by simp [hcolumns d hd]
  have hskipped : (bs.map Block.declared).filter (fun d => d.columns.isEmpty) = [] :=
    List.filter_eq_nil_iff.2 fun d hd => by simp [hcolumns d hd]
  have hread : MySql.read (Dump.text ls) = ⟨bs.map Block.table, []⟩ := by
    rw [MySql.read, hscan]
    simp [Scan.finish, Scan.endOfText, hkept, hskipped, Block.table, Block.declared,
      Function.comp_def]
  exact congrArg Except.ok hread

/-- Two tables, one for each kind of header, with keywords for names. -/
def keywordTables : List Block :=
  [{  before := [.comment ⟨" shop".toList, by decide⟩, .blank]
      schema := ⟨"shop", by decide⟩
      name := ⟨"key", by decide⟩
      header := .used [.blank]
      columns :=
        [⟨⟨"primary", by decide⟩, 'i', ⟨"nt NOT NULL,".toList, by decide⟩, by decide⟩,
         ⟨⟨"use", by decide⟩, 't', ⟨"ext,".toList, by decide⟩, by decide⟩]
      keys := [⟨"PRIMARY KEY", ⟨" (`primary`)".toList, by decide⟩, by decide,
        forall_mem_some (by decide)⟩]
      ending := ⟨" ENGINE=InnoDB;".toList, by decide⟩
      columns_ne_nil := by decide },
   {  before := []
      schema := ⟨"log", by decide⟩
      name := ⟨"key", by decide⟩
      header := .qualified
      columns := [⟨⟨"check", by decide⟩, 'i', ⟨"nt".toList, by decide⟩, by decide⟩]
      keys := []
      ending := ⟨";".toList, by decide⟩
      columns_ne_nil := by decide }]

theorem dump_reads_back_keywords :
    Dump.text ((Dump.entries keywordTables [.blank]).map Line.indented) =
      ['\n'].intercalate
        (["  -- shop", "  ", "  USE `shop`;", "  ", "  CREATE TABLE `key` (",
          "  `primary` int NOT NULL,", "  `use` text,", "  PRIMARY KEY (`primary`)",
          "  ) ENGINE=InnoDB;", "  CREATE TABLE `log`.`key` (", "  `check` int", "  );",
          "  "].map String.toList) ∧
    Driver.mysql.read
        (Dump.text ((Dump.entries keywordTables [.blank]).map Line.indented)) =
      .ok ⟨[⟨"shop", "key", [⟨"primary", none⟩, ⟨"use", none⟩]⟩,
            ⟨"log", "key", [⟨"check", none⟩]⟩], []⟩ :=
  ⟨by decide +kernel, dump_reads_back keywordTables [.blank] _ rfl (by decide)⟩

end MySql
end SchemaMap
