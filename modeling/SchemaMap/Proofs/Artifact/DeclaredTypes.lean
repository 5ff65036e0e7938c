/-
# Which type stands for a column

The type map groups the columns of all tables by the full names of their tables, and what is
written of it reads back as it is (`ofTables_grouped`). A table is found in it by its full name,
which joins the names of the schema and of the table with a dot; the dots within these names are
not told from it. So two tables share an entry just where the one name goes on where the other
ends (`Table.fullName_eq_iff`), and then the first of two columns of one name gives its type to
both. Where no two tables are mistaken for each other, each column has its own type, and only
there has every table an entry of its own (`types_apart_iff`).

Key definitions: `TypeMap.IsFirst`, `TypeMap.type?`, `Table.MistakenFor`.
Key theorems: `TypeMap.ofTables_grouped`, `Table.fullName_eq_iff`, `TypeMap.type?_ofTables`,
`TypeMap.types_apart_iff`.
-/
import SchemaMap.Proofs.Artifact.TypeLookup
import Mathlib.Data.List.Nodup

namespace SchemaMap

namespace TypeMap

open Artifact (readTypeMap typeMapText)

/-! ### Groups -/

/-- A column that none of its name stands in front of. -/
def IsFirst (columns : List Column) (c : Column) : Prop :=
  ∃ before after, columns = before ++ c :: after ∧ c.name ∉ before.map (·.name)

/-- The type listed for a name is that of the first column of the name. -/
theorem exists_isFirst {columns : List Column} {name : String}
    (h : name ∈ columns.map (·.name)) :
    ∃ c, IsFirst columns c ∧ c.name = name ∧ firstType columns name = c.typeName.getD "" := by
  obtain ⟨d, hd, hname⟩ := List.mem_map.1 h
  have hsome : (columns.find? fun c => c.name == name).isSome = true :=
    List.find?_isSome.2 ⟨d, hd, by simpa using hname⟩
  obtain ⟨c, hc⟩ := Option.isSome_iff_exists.1 hsome
  obtain ⟨hc', before, after, hsplit, hbefore⟩ := List.find?_eq_some_iff_append.1 hc
  obtain rfl : c.name = name := by simpa using hc'
  refine ⟨c, ⟨before, after, hsplit, fun hm => ?_⟩, rfl, by rw [firstType, hc]; rfl⟩
  obtain ⟨e, he, hename⟩ := List.mem_map.1 hm
  have hne := hbefore e he
  simp [hename] at hne

theorem firstTypes_names (columns : List Column) :
    (firstTypes columns).map Prod.fst = (columns.map (·.name)).eraseDups := by
  unfold firstTypes
  rw [List.map_map]
  exact List.map_id _

/-- **The type map is grouped by full names, and reads back.** Its keys are the full names of the
tables, each once, in the order of the first tables; under a key stand the names of the columns of
all tables of that full name, each once, in the order of the first columns, with the declared types
of these. The text that is written of it gives it back, whatever follows the text. -/
theorem ofTables_grouped (tables : List Table) (rest : List Char) :
    (ofTables tables).map Prod.fst = (tables.map Table.fullName).eraseDups ∧
      ((ofTables tables).map Prod.fst).Nodup ∧
      (∀ entry ∈ ofTables tables,
        entry.2.map Prod.fst = ((columnsNamed tables entry.1).map (·.name)).eraseDups ∧
          (entry.2.map Prod.fst).Nodup ∧
          ∀ column ∈ entry.2, ∃ c, IsFirst (columnsNamed tables entry.1) c ∧
            column = (c.name, c.typeName.getD "")) ∧
      readTypeMap (typeMapText (ofTables tables) ++ rest) = .ok (some (ofTables tables)) := by
  rw [ofTables_eq]
  refine ⟨declared_keys tables, declared_keys_nodup tables, fun entry hentry => ?_,
    Artifact.readTypeMap_typeMapText (declared_keys_nodup tables) rest⟩
  obtain ⟨key, -, rfl⟩ := List.mem_map.1 hentry
  refine ⟨firstTypes_names _, ?_, fun column hcolumn => ?_⟩
  · rw [firstTypes_names]
    exact nodup_eraseDups _
  · obtain ⟨name, hname, rfl⟩ := List.mem_map.1 hcolumn
    obtain ⟨c, hfirst, rfl, htype⟩ := exists_isFirst (List.mem_eraseDups.1 hname)
    exact ⟨c, hfirst, by rw [htype]⟩

end TypeMap

/-! ### Full names -/

/-- Whether a table has the full name of another table, since the name of its schema goes on with a
dot where that of the other schema ends. -/
def Table.MistakenFor (t u : Table) : Prop :=
  ∃ between, t.schema = u.schema ++ "." ++ between ∧ u.name = between ++ "." ++ t.name

theorem Table.toList_fullName (t : Table) :
    t.fullName.toList = t.schema.toList ++ '.' :: t.name.toList := by
  simp [Table.fullName]

/-- What is left when one of two equal full names has a shorter schema in front. -/
theorem Table.mistakenFor_of_append {t u : Table} {between : List Char}
    (hschema : t.schema.toList = u.schema.toList ++ '.' :: between)
    (hname : u.name.toList = between ++ '.' :: t.name.toList) : t.MistakenFor u := by
  refine ⟨String.ofList between, ?_, ?_⟩
  · rw [← String.toList_inj]
    simpa using hschema
  · rw [← String.toList_inj]
    simpa using hname

/-- **Which tables share a full name**: those of one schema and one name, and those of which one is
mistaken for the other. -/
theorem Table.fullName_eq_iff {t u : Table} :
    t.fullName = u.fullName ↔
      (t.schema = u.schema ∧ t.name = u.name) ∨ t.MistakenFor u ∨ u.MistakenFor t := by
  constructor
  · intro h
    have hlist := congrArg String.toList h
    rw [toList_fullName, toList_fullName, List.append_eq_append_iff] at hlist
    rcases hlist with ⟨more, hu, ht⟩ | ⟨more, ht, hu⟩
    · cases more with
      | nil =>
        rw [List.append_nil] at hu
        exact .inl ⟨String.toList_inj.1 hu.symm, String.toList_inj.1 (List.cons.inj ht).2⟩
      | cons c between =>
        obtain ⟨rfl, hname⟩ := List.cons.inj ht
        exact .inr (.inr (mistakenFor_of_append hu hname))
    · cases more with
      | nil =>
        rw [List.append_nil] at ht
        exact .inl ⟨String.toList_inj.1 ht, String.toList_inj.1 (List.cons.inj hu).2.symm⟩
      | cons c between =>
        obtain ⟨rfl, hname⟩ := List.cons.inj hu
        exact .inr (.inl (mistakenFor_of_append ht hname))
  · have hmistaken {t u : Table} (h : t.MistakenFor u) : t.fullName = u.fullName := by
      obtain ⟨between, hschema, hname⟩ := h
      simp [Table.fullName, hschema, hname, String.append_assoc]
    rintro (⟨hschema, hname⟩ | h | h)
    · rw [Table.fullName, Table.fullName, hschema, hname]
    · exact hmistaken h
    · exact (hmistaken h).symm

/-- Of tables that differ in schema or name, none is mistaken for another just where their full
names differ. -/
theorem Table.fullNames_nodup_iff {tables : List Table}
    (h : (tables.map fun t => (t.schema, t.name)).Nodup) :
    (tables.map Table.fullName).Nodup ↔ ∀ t ∈ tables, ∀ u ∈ tables, ¬t.MistakenFor u := by
  have hpair {t u : Table} (ht : t ∈ tables) (hu : u ∈ tables)
      (hschema : t.schema = u.schema) (hname : t.name = u.name) : t = u :=
    List.inj_on_of_nodup_map h ht hu (Prod.ext hschema hname)
  constructor
  · intro hnames t ht u hu hm
    obtain rfl : t = u :=
      List.inj_on_of_nodup_map hnames ht hu (fullName_eq_iff.2 (.inr (.inl hm)))
    -- no schema goes on behind itself
    obtain ⟨between, hschema, -⟩ := hm
    have hlen := congrArg String.length hschema
    simp only [String.length_append] at hlen
    have hdot : ".".length = 1 := rfl
    omega
  · intro hnone
    refine (List.nodup_map_iff_inj_on (List.Nodup.of_map _ h)).2 fun t ht u hu hfull => ?_
    rcases fullName_eq_iff.1 hfull with ⟨hschema, hname⟩ | hm | hm
    · exact hpair ht hu hschema hname
    · exact absurd hm (hnone t ht u hu)
    · exact absurd hm (hnone u hu t ht)

namespace TypeMap

open Artifact (readTypeMap typeMapText)

/-! ### Looking up a type -/

/-- The type that stands for a column under the full name of a table. -/
def type? (m : TypeMap) (fullName column : String) : Option String :=
  (m.lookup fullName).bind fun columns => columns.lookup column

/-- What is looked up for a column of a table is the type of the first column of its name, of all
tables that share the full name. -/
theorem type?_ofTables {tables : List Table} {t : Table} (ht : t ∈ tables) {c : Column}
    (hc : c ∈ t.columns) :
    (ofTables tables).type? t.fullName c.name =
      some (firstType (columnsNamed tables t.fullName) c.name) := by
  have hkey : t.fullName ∈ (tables.map Table.fullName).eraseDups :=
    List.mem_eraseDups.2 (List.mem_map_of_mem ht)
  have hname : c.name ∈ ((columnsNamed tables t.fullName).map (·.name)).eraseDups := by
    refine List.mem_eraseDups.2 (List.mem_map_of_mem (List.mem_flatMap.2 ⟨t, ?_, hc⟩))
    exact List.mem_filter.2 ⟨ht, by simp⟩
  rw [ofTables_eq, type?, declared, List.lookup_graph _ hkey]
  exact List.lookup_graph _ hname

/-- A full name that no other table has leads to the columns of its table. -/
theorem columnsNamed_of_nodup : ∀ {tables : List Table}, (tables.map Table.fullName).Nodup →
    ∀ t ∈ tables, columnsNamed tables t.fullName = t.columns
  | [], _, t, ht => absurd ht List.not_mem_nil
  | u :: tables, h, t, ht => by
    rw [List.map_cons, List.nodup_cons] at h
    unfold columnsNamed
    rcases List.mem_cons.1 ht with rfl | ht
    · have hnone : (tables.filter fun v => v.fullName = t.fullName) = [] := by
        rw [List.filter_eq_nil_iff]
        intro v hv hfull
        exact h.1 (List.mem_map.2 ⟨v, hv, by simpa using hfull⟩)
      rw [List.filter_cons_of_pos (by simp), hnone]
      simp
    · have hne : ¬u.fullName = t.fullName := fun he => h.1 (he ▸ List.mem_map_of_mem ht)
      rw [List.filter_cons_of_neg (by simpa using hne)]
      exact columnsNamed_of_nodup h.2 t ht

/-- Of columns with different names, each is the first of its name. -/
theorem firstType_of_nodup {columns : List Column} (h : (columns.map (·.name)).Nodup)
    {c : Column} (hc : c ∈ columns) : firstType columns c.name = c.typeName.getD "" := by
  obtain ⟨d, ⟨before, after, hsplit, -⟩, hname, htype⟩ :=
    exists_isFirst (List.mem_map_of_mem (f := (·.name)) hc)
  have hd : d ∈ columns := hsplit ▸ List.mem_append_right before List.mem_cons_self
  rw [htype, List.inj_on_of_nodup_map h hd hc hname]

theorem length_ofTables_eq_iff (tables : List Table) :
    (ofTables tables).length = tables.length ↔ (tables.map Table.fullName).Nodup := by
  have hlength : (ofTables tables).length = (tables.map Table.fullName).eraseDups.length := by
    rw [ofTables_eq, ← declared_keys, List.length_map]
  rw [hlength, ← length_eraseDups_eq_iff, List.length_map]

/-- **When the type map keeps tables apart.** Let tables differ in schema or name, each with
columns of different names. What is written of their type map reads back as a map that has as many
keys as there are tables, and gives for each column of each table its own declared type, or the
empty one, just where no table is mistaken for another. -/
theorem types_apart_iff {tables : List Table}
    (htables : (tables.map fun t => (t.schema, t.name)).Nodup)
    (hcolumns : ∀ t ∈ tables, t.columnNames.Nodup) :
    ∃ m, readTypeMap (typeMapText (ofTables tables)) = .ok (some m) ∧
      ((m.length = tables.length ∧ ∀ t ∈ tables, ∀ c ∈ t.columns,
          m.type? t.fullName c.name = some (c.typeName.getD "")) ↔
        ∀ t ∈ tables, ∀ u ∈ tables, ¬t.MistakenFor u) := by
  have hread := Artifact.readTypeMap_typeMapText (declared_keys_nodup tables) []
  rw [List.append_nil, ← ofTables_eq] at hread
  refine ⟨ofTables tables, hread, ?_⟩
  rw [length_ofTables_eq_iff, ← Table.fullNames_nodup_iff htables]
  refine and_iff_left_of_imp fun hnames t ht c hc => ?_
  rw [type?_ofTables ht hc, columnsNamed_of_nodup hnames t ht,
    firstType_of_nodup (hcolumns t ht) hc]

/-- Two tables with dots in their names that are not mistaken for each other. -/
def dottedTables : List Table :=
  [⟨"a.b", "c", [⟨"id", some "INT"⟩, ⟨"note", none⟩]⟩, ⟨"a", "c.b", [⟨"id", some "BIT"⟩]⟩]

theorem types_apart_dotted :
    (dottedTables.map fun t => (t.schema, t.name)).Nodup ∧
      (∀ t ∈ dottedTables, t.columnNames.Nodup) ∧
      ∃ m, readTypeMap (typeMapText (ofTables dottedTables)) = .ok (some m) ∧
        m.length = 2 ∧ m.type? "a.b.c" "id" = some "INT" ∧ m.type? "a.b.c" "note" = some "" ∧
        m.type? "a.c.b" "id" = some "BIT" := by
  have htables : (dottedTables.map fun t => (t.schema, t.name)).Nodup := by decide
  have hcolumns : ∀ t ∈ dottedTables, t.columnNames.Nodup := by decide
  obtain ⟨m, hread, hiff⟩ := types_apart_iff htables hcolumns
  have hnone : ∀ t ∈ dottedTables, ∀ u ∈ dottedTables, ¬t.MistakenFor u := by
    rw [← Table.fullNames_nodup_iff htables]
    decide
  obtain ⟨hlength, htypes⟩ := hiff.2 hnone
  exact ⟨htables, hcolumns, m, hread, hlength,
    htypes ⟨"a.b", "c", _⟩ List.mem_cons_self ⟨"id", some "INT"⟩ List.mem_cons_self,
    htypes ⟨"a.b", "c", _⟩ List.mem_cons_self ⟨"note", none⟩
      (List.mem_cons_of_mem _ List.mem_cons_self),
    htypes ⟨"a", "c.b", _⟩ (List.mem_cons_of_mem _ List.mem_cons_self) ⟨"id", some "BIT"⟩
      List.mem_cons_self⟩

/-- Two tables of which the first is mistaken for the second. -/
def mistakenTables : List Table :=
  [⟨"a.b", "c", [⟨"id", some "INT"⟩]⟩, ⟨"a", "b.c", [⟨"id", some "BIT"⟩]⟩]

/-- Such tables share one entry, and the column of the second one has the type of the first. -/
theorem types_mixed_up :
    (mistakenTables.map fun t => (t.schema, t.name)).Nodup ∧
      (∀ t ∈ mistakenTables, t.columnNames.Nodup) ∧
      readTypeMap (typeMapText (ofTables mistakenTables)) =
        .ok (some [("a.b.c", [("id", "INT")])]) ∧
      TypeMap.type? [("a.b.c", [("id", "INT")])] (Table.fullName ⟨"a", "b.c", []⟩) "id" ≠
        some "BIT" := by
  refine ⟨by decide, by decide, ?_, by decide⟩
  have hread := Artifact.readTypeMap_typeMapText (declared_keys_nodup mistakenTables) []
  rw [List.append_nil, ← ofTables_eq] at hread
  rw [hread]
  decide

end TypeMap
end SchemaMap
