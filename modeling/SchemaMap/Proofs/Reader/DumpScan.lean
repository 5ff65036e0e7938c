/-
# A scan of a MySQL dump finds what the dump declares

`MySql.Scan` goes through a dump line by line, with the current schema, the open table and the
tables it has closed. Three facts tell what one line does to these (`take_currentSchema`,
`take_tables`, `take_openWith`); from them the tables of a whole scan are those of the
declarations of its lines (`takeAll_tables`), put together in order.

Key definitions: `MySql.Scan.openWith`, `MySql.Scan.NotesOn`, `MySql.tablesOf`.
Key theorems: `MySql.takeAll_tables`, `MySql.Scan.NotesOn.takeAll`, `MySql.read_tables`,
`MySql.read_declared`.
-/
import SchemaMap.Reader.Driver
import SchemaMap.Proofs.Reader.DumpDeclarations
import Mathlib.Data.List.Nodup
import Mathlib.Tactic.Set

namespace SchemaMap
namespace MySql

/-! ### What one line does -/

namespace Scan

theorem close_currentSchema (s : Scan) : s.close.currentSchema = s.currentSchema := by
  unfold close
  split <;> rfl

theorem close_tables (s : Scan) :
    s.close.tables =
      (s.current.toList.map (·.table)).foldl (fun ts d => addTable d ts) s.tables := by
  unfold close
  cases s.current <;> rfl

theorem endOfText_tables (s : Scan) : s.endOfText.tables = s.close.tables := by
  obtain ⟨schema, current, tables, notes⟩ := s
  cases current <;> rfl

/-- Opening a table closes the one that is open and keeps the current schema. -/
theorem openTable_spec (s : Scan) (line : Nat) (name : String) :
    (s.openTable line name).currentSchema = s.currentSchema ∧
      (s.openTable line name).current = some ⟨⟨s.currentSchema, name, []⟩, line⟩ ∧
      (s.openTable line name).tables = s.close.tables := by
  obtain ⟨schema, current, tables, notes⟩ := s
  by_cases hs : schema.isEmpty = true
  · cases current <;> simp [openTable, close, note, hs]
  · cases current <;> simp [openTable, close, note, hs]

/-- A line sets the current schema if it chooses one. -/
theorem take_currentSchema (s : Scan) (line : Nat) (text : List Char) (k : DumpLine) :
    (s.take line text k).currentSchema = (chosenSchema? k).getD s.currentSchema := by
  cases k with
  | use schema => rfl
  | create qualifier name => cases qualifier <;> exact (openTable_spec _ _ _).1
  | column name => unfold take addColumn; cases s.current <;> rfl
  | key => rfl
  | close =>
    unfold take
    simp only
    split
    · exact close_currentSchema s
    · rfl
  | silent => rfl
  | unknown => unfold take; simp only; split <;> rfl

/-- The current schema is the one that was chosen last. -/
theorem take_schemaAfter {s : Scan} {before : List DumpLine}
    (hs : s.currentSchema = schemaAfter before) (line : Nat) (text : List Char) (k : DumpLine) :
    (s.take line text k).currentSchema = schemaAfter (before ++ [k]) := by
  rw [take_currentSchema, schemaAfter_append, hs]

/-- A line that ends a declaration closes the open table, and no other line does. -/
theorem take_tables (s : Scan) (line : Nat) (text : List Char) (k : DumpLine) :
    (s.take line text k).tables = if endsDeclaration k then s.close.tables else s.tables := by
  cases k with
  | use schema => rfl
  | create qualifier name =>
    cases qualifier with
    | none => exact (openTable_spec s line name).2.2
    | some schema =>
      have h := (openTable_spec { s with currentSchema := schema } line name).2.2
      rw [close_tables] at h
      rw [close_tables]
      exact h
  | column name => unfold take addColumn; cases s.current <;> rfl
  | key => rfl
  | close => unfold take close; cases s.current <;> rfl
  | silent => rfl
  | unknown => unfold take; simp only; split <;> rfl

/-- The open table, with `more` columns than it has. -/
def openWith (s : Scan) (more : List String) : List Declared :=
  s.current.toList.map fun o => { o.table with columns := o.table.columns ++ more }

theorem openWith_nil (s : Scan) : s.openWith [] = s.current.toList.map (·.table) := by
  unfold openWith
  cases s.current <;> simp

/-- A line that ends no declaration adds its column to the open table. -/
theorem take_openWith (s : Scan) (line : Nat) (text : List Char) (k : DumpLine)
    (hk : endsDeclaration k = false) (more : List String) :
    (s.take line text k).openWith more = s.openWith ((columnName? k).toList ++ more) := by
  cases k with
  | use schema => rfl
  | create qualifier name => cases hk
  | column name =>
    unfold take addColumn openWith
    cases h : s.current <;> simp [columnName?, h]
  | key => rfl
  | close => cases hk
  | silent => rfl
  | unknown => unfold take; simp only; split <;> rfl

/-- A `CREATE TABLE` line opens its table, and a line that closes leaves none open. -/
theorem take_openWith_of_ends (s : Scan) (line : Nat) (text : List Char) (k : DumpLine)
    (hk : endsDeclaration k = true) (before ks : List DumpLine)
    (hs : s.currentSchema = schemaAfter before) :
    (s.take line text k).openWith (bodyColumns ks) = (declaredAt? before (k :: ks)).toList := by
  cases k with
  | create qualifier name =>
    cases qualifier with
    | none =>
      have h := (openTable_spec s line name).2.1
      simp [take, openWith, h, declaredAt?, hs]
    | some schema =>
      have h := (openTable_spec { s with currentSchema := schema } line name).2.1
      simp [take, openWith, h, declaredAt?]
  | close =>
    unfold take openWith close
    cases h : s.current <;> simp [h, declaredAt?, note]
  | use _ => cases hk
  | column _ => cases hk
  | key => cases hk
  | silent => cases hk
  | unknown => cases hk

theorem declaredAt?_of_not_ends {k : DumpLine} (hk : endsDeclaration k = false)
    (before ks : List DumpLine) : declaredAt? before (k :: ks) = none := by
  cases k with
  | create _ _ => cases hk
  | _ => rfl

end Scan

/-! ### What a scan finds -/

theorem foldl_addTable_merged : ∀ later ds : List Declared,
    later.foldl (fun ts d => addTable d ts) (merged ds) = merged (ds ++ later)
  | [], ds => by rw [List.append_nil]; rfl
  | d :: later, ds => by
    rw [List.foldl_cons, addTable_merged, foldl_addTable_merged later, List.append_assoc]
    rfl

/-- **The tables of a scan.** Behind the lines `before`, the scan closes what it has open, with
the columns that still follow, and then the declarations of the lines that are left. -/
theorem takeAll_tables : ∀ (raws : List (List Char)) (s : Scan) (line : Nat)
    (before : List DumpLine), s.currentSchema = schemaAfter before →
    (s.takeAll line raws).endOfText.tables =
      (s.openWith (bodyColumns (raws.map fun l => DumpLine.ofText (Text.trim l)))
        ++ placewiseFrom declaredAt? before (raws.map fun l => DumpLine.ofText (Text.trim l))).foldl
          (fun ts d => addTable d ts) s.tables
  | [], s, line, before, _ => by
    rw [Scan.takeAll, Scan.endOfText_tables, Scan.close_tables, List.map_nil, bodyColumns_nil,
      Scan.openWith_nil, placewiseFrom_nil]
    simp [declaredAt?]
  | raw :: raws, s, line, before, hs => by
    rw [List.map_cons]
    generalize hk : DumpLine.ofText (Text.trim raw) = k
    generalize hks : raws.map (fun l => DumpLine.ofText (Text.trim l)) = ks
    have ih := takeAll_tables raws _ (line + 1) _ (Scan.take_schemaAfter hs line (Text.trim raw) k)
    rw [Scan.takeAll]
    simp only [hk]
    rw [ih, hks, placewiseFrom_cons, bodyColumns_cons, Scan.take_tables]
    cases he : endsDeclaration k
    · rw [Scan.take_openWith s line _ k he, Scan.declaredAt?_of_not_ends he]
      simp
    · rw [Scan.take_openWith_of_ends s line _ k he before ks hs]
      simp only [if_true]
      rw [Scan.close_tables, ← List.foldl_append, ← Scan.openWith_nil]

/-! ### Notes

Notes that a line gives rise to carry its number; those on tables without columns carry none. -/

/-- The notes so far are on lines of the class `L`, as the one would be that is taken if the open
table is never closed. -/
structure Scan.NotesOn (L : Nat → Prop) (s : Scan) : Prop where
  notes : ∀ d ∈ s.diagnostics, ∃ n, d.line = some n ∧ L n
  opened : ∀ o ∈ s.current, L o.openedAt

section NotesOn

variable {L : Nat → Prop} {s : Scan} {line : Nat}

theorem Scan.NotesOn.note (h : s.NotesOn L) (hline : L line) (message : String) :
    (s.note line message).NotesOn L := by
  refine ⟨fun d hd => ?_, h.opened⟩
  rcases List.mem_append.1 hd with hd | hd
  · exact h.notes d hd
  · rw [List.mem_singleton.1 hd]
    exact ⟨line, rfl, hline⟩

theorem Scan.NotesOn.close (h : s.NotesOn L) : s.close.NotesOn L := by
  unfold Scan.close
  split
  · exact ⟨h.notes, fun o ho => by cases ho⟩
  · exact h

theorem Scan.NotesOn.openTable (h : s.NotesOn L) (hline : L line) (name : String) :
    (s.openTable line name).NotesOn L := by
  have noted (t : Scan) (ht : t.NotesOn L) (b : Bool) (m : String) :
      (if b then t.note line m else t).NotesOn L := by
    cases b
    · exact ht
    · exact ht.note hline m
  refine ⟨(noted _ ?_ _ _).notes, fun o ho => ?_⟩
  · cases s.current with
    | none => exact h
    | some o => exact (h.note hline _).close
  · obtain rfl := Option.some.inj ho
    exact hline

/-- A line adds notes on itself only. -/
theorem Scan.NotesOn.take (h : s.NotesOn L) (hline : L line) (text : List Char) (k : DumpLine) :
    (s.take line text k).NotesOn L := by
  cases k with
  | use schema => exact ⟨h.notes, h.opened⟩
  | create qualifier name =>
    cases qualifier with
    | none => exact h.openTable hline name
    | some schema =>
      have hchosen : ({ s with currentSchema := schema } : Scan).NotesOn L := ⟨h.notes, h.opened⟩
      exact hchosen.openTable hline name
  | column name =>
    unfold Scan.take Scan.addColumn
    cases hc : s.current with
    | none => exact h
    | some o =>
      refine ⟨h.notes, fun o' ho' => ?_⟩
      obtain rfl := Option.some.inj ho'
      exact h.opened o (by rw [hc]; rfl)
  | key => exact h
  | close =>
    unfold Scan.take
    simp only
    split
    · exact h.close
    · exact h.note hline _
  | silent => exact h
  | unknown =>
    unfold Scan.take
    simp only
    split
    · exact h.note hline _
    · exact h

theorem Scan.NotesOn.takeAll : ∀ (raws : List (List Char)) {s : Scan} {line : Nat}
    (_ : s.NotesOn L) (_ : ∀ j < raws.length, L (line + j)), (s.takeAll line raws).NotesOn L
  | [], _, _, h, _ => h
  | raw :: raws, s, line, h, hlines => by
    have hhere : L line := hlines 0 (Nat.zero_lt_succ _)
    have hmore : ∀ j < raws.length, L (line + 1 + j) := by
      intro j hj
      rw [Nat.add_assoc, Nat.add_comm 1 j]
      exact hlines (j + 1) (Nat.succ_lt_succ hj)
    exact Scan.NotesOn.takeAll raws (h.take hhere _ _) hmore

theorem Scan.NotesOn.endOfText (h : s.NotesOn L) : s.endOfText.NotesOn L := by
  unfold Scan.endOfText
  split
  · rename_i o ho
    exact (h.note (h.opened o (by rw [ho]; rfl)) _).close
  · exact h

/-- The notes in the end are on lines of the class, or on none. -/
theorem Scan.NotesOn.finish (h : s.NotesOn L) : ∀ d ∈ s.finish.diagnostics, ∀ n ∈ d.line, L n := by
  intro d hd n hn
  rcases List.mem_append.1 hd with hd | hd
  · obtain ⟨m, hm, hL⟩ := h.endOfText.notes d hd
    obtain rfl : m = n := Option.some.inj (hm.symm.trans hn)
    exact hL
  · obtain ⟨t, -, rfl⟩ := List.mem_map.1 hd
    cases hn

end NotesOn

/-- Every note taken so far carries a line. -/
def Scan.Placed (s : Scan) : Prop :=
  ∀ d ∈ s.diagnostics, d.line.isNone = false

theorem Scan.placed_iff {s : Scan} : s.Placed ↔ s.NotesOn fun _ => True := by
  constructor
  · intro h
    refine ⟨fun d hd => ?_, fun _ _ => trivial⟩
    obtain ⟨n, hn⟩ := Option.isSome_iff_exists.1 (Option.isNone_eq_false_iff.1 (h d hd))
    exact ⟨n, hn, trivial⟩
  · intro h d hd
    obtain ⟨n, hn, -⟩ := h.notes d hd
    rw [hn]
    rfl

theorem Scan.Placed.takeAll (raws : List (List Char)) {s : Scan} (h : s.Placed) (line : Nat) :
    (s.takeAll line raws).Placed :=
  placed_iff.2 ((placed_iff.1 h).takeAll raws fun _ _ => trivial)

theorem Scan.Placed.endOfText {s : Scan} (h : s.Placed) : s.endOfText.Placed :=
  placed_iff.2 (placed_iff.1 h).endOfText

/-! ### The tables of a dump -/

/-- The tables that are kept, each with its columns. -/
def tablesOf (ts : List Declared) : List Table :=
  (ts.filter fun t => !t.columns.isEmpty).map fun t =>
    ⟨t.schema, t.name, t.columns.map fun c => ⟨c, none⟩⟩

theorem tablesOf_owned : ∀ ts : List Declared,
    (tablesOf ts).flatMap (fun t => t.columns.map fun c => ((t.schema, t.name), c.name)) =
      ts.flatMap Declared.owned
  | [] => rfl
  | t :: ts => by
    have ih := tablesOf_owned ts
    unfold tablesOf at ih ⊢
    rw [List.flatMap_cons, ← ih, List.filter_cons]
    cases hc : t.columns with
    | nil => simp [Declared.owned, hc]
    | cons c cs => simp [Declared.owned, Declared.key, hc]

theorem tablesOf_key (ts : List Declared) :
    (tablesOf ts).map (fun t => (t.schema, t.name)) =
      (ts.filter fun t => !t.columns.isEmpty).map Declared.key := by
  simp [tablesOf, Function.comp_def, Declared.key]

theorem scan_tables (cs : List Char) :
    ((({} : Scan).takeAll 1 (Text.lines cs)).endOfText).tables =
      merged (declarations (kinds cs)) := by
  have h := takeAll_tables (Text.lines cs) {} 1 [] rfl
  rw [h]
  exact foldl_addTable_merged (declarations (kinds cs)) []

/-- The tables that are read are the declared ones that have columns. -/
theorem read_tables (cs : List Char) :
    (read cs).tables = tablesOf (merged (declarations (kinds cs))) := by
  rw [← scan_tables]
  rfl

/-- They hold every column line inside a declaration once. -/
theorem read_owned_perm (cs : List Char) :
    ((read cs).tables.flatMap fun t => t.columns.map fun c => ((t.schema, t.name), c.name)).Perm
      (ownedColumns (kinds cs)) := by
  rw [read_tables, tablesOf_owned, ownedColumns_eq]
  exact merged_owned_perm _

theorem emptyNote_inj {d e : Declared} (hd : d.Named) (h : Scan.emptyNote d = Scan.emptyNote e) :
    d.key = e.key := by
  refine key_eq_of_fullName hd ?_
  have hm : "table " ++ d.fullName ++ " declares no columns; skipped" =
      "table " ++ e.fullName ++ " declares no columns; skipped" := congrArg Diagnostic.message h
  simpa using hm

/-- The notes on tables without columns are all different. -/
theorem emptyNotes_nodup {ts : List Declared} (hn : ∀ t ∈ ts, t.Named)
    (hk : (ts.map Declared.key).Nodup) : (ts.map Scan.emptyNote).Nodup := by
  have hts : ts.Nodup := List.Nodup.of_map _ hk
  refine List.Nodup.map_on (fun d hd e he h => ?_) hts
  exact List.inj_on_of_nodup_map hk hd he (emptyNote_inj (hn d hd) h)

/-- The notes without a line are those on tables without columns. -/
theorem finish_notes {s : Scan} (h : s.endOfText.Placed) :
    (s.finish.diagnostics.filter fun d => d.line.isNone) =
      (s.endOfText.tables.filter fun t => t.columns.isEmpty).map Scan.emptyNote := by
  unfold Scan.finish
  simp only
  rw [List.filter_append, List.filter_eq_nil_iff.2 fun d hd => by simp [h d hd],
    List.nil_append, List.filter_eq_self]
  intro d hd
  obtain ⟨t, -, rfl⟩ := List.mem_map.1 hd
  rfl

/-- **What a scan of a dump finds.** Reading never fails. The tables are the declared ones that
have columns, in the order of their first declarations, and none twice; they hold every column
line inside a declaration once, under the table it belongs to. The notes without a line stand
for the declared tables without columns, one for each. -/
theorem read_declared (cs : List Char) :
    ∃ x, Driver.mysql.read cs = .ok x ∧
      x.tables = tablesOf (merged (declarations (kinds cs))) ∧
      (x.tables.map fun t => (t.schema, t.name)).Nodup ∧
      (x.tables.flatMap fun t => t.columns.map fun c => ((t.schema, t.name), c.name)).Perm
        (ownedColumns (kinds cs)) ∧
      (x.diagnostics.filter fun d => d.line.isNone) =
        ((merged (declarations (kinds cs))).filter fun t => t.columns.isEmpty).map
          Scan.emptyNote ∧
      ∀ t ∈ merged (declarations (kinds cs)), t.columns = [] →
        x.diagnostics.count (Scan.emptyNote t) = 1 := by
  set ts := merged (declarations (kinds cs)) with hts
  have hkeys : (ts.map Declared.key).Nodup := merged_key_nodup _
  have hnamed : ∀ t ∈ ts, t.Named := fun t ht => merged_named (kinds_named cs) t ht
  have hscan : (({} : Scan).takeAll 1 (Text.lines cs)).endOfText.tables = ts := scan_tables cs
  have hplaced : (({} : Scan).takeAll 1 (Text.lines cs)).endOfText.Placed :=
    Scan.Placed.endOfText (Scan.Placed.takeAll _ (fun d hd => by cases hd) 1)
  have htables : (read cs).tables = tablesOf ts := read_tables cs
  have hnotes : ((read cs).diagnostics.filter fun d => d.line.isNone) =
      (ts.filter fun t => t.columns.isEmpty).map Scan.emptyNote := by
    rw [← hscan]
    exact finish_notes hplaced
  refine ⟨read cs, rfl, htables, ?_, read_owned_perm cs, hnotes, ?_⟩
  · rw [htables, tablesOf_key]
    exact hkeys.sublist (List.filter_sublist.map _)
  · intro t ht hc
    have hmem : t ∈ ts.filter fun t => t.columns.isEmpty := by simp [ht, hc]
    rw [← List.count_filter (p := fun d => d.line.isNone) (by rfl), hnotes]
    refine List.count_eq_one_of_mem (emptyNotes_nodup ?_ ?_) (List.mem_map_of_mem hmem)
    · exact fun u hu => hnamed u (List.mem_filter.1 hu).1
    · exact hkeys.sublist (List.filter_sublist.map _)

end MySql
end SchemaMap
