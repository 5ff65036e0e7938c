/-
# A MySQL dump can be rendered

The names that are read from a dump are runs of word characters. So none is empty, but for a schema
that no line has chosen, and none holds a null character or a line break: of the four things that a
name is refused for, only its length is left. A name counts its characters, of whatever script they
are.

Key definitions: `MySql.Worded`, `MySql.Unqualified`.
Key theorems: `MySql.read_worded`, `MySql.dump_rendered_iff`.
-/
import SchemaMap.Proofs.Artifact.Rendering
import SchemaMap.Proofs.Reader.DumpScan

namespace SchemaMap

/-- Word characters are neither null characters nor line breaks. -/
theorem DumpLine.IsName.isUnbroken {name : String} (h : IsName name) : Name.IsUnbroken name :=
  ⟨fun hm => absurd (h.2 _ hm) (by decide), fun hm => absurd (h.2 _ hm) (by decide),
    fun hm => absurd (h.2 _ hm) (by decide)⟩

theorem DumpLine.IsName.ne_empty {name : String} (h : IsName name) : name ≠ "" :=
  fun he => h.1 (String.toList_eq_nil_iff.2 he)

/-- A name on a line of a dump can be written if it is not too long. -/
theorem DumpLine.IsName.check_eq_ok_iff {name : String} (h : IsName name) :
    Name.check name = .ok () ↔ name.length ≤ Name.maxLength := by
  rw [Name.check_eq_ok_iff]
  exact ⟨fun hc => hc.2.2, fun hlen => ⟨h.ne_empty, h.isUnbroken, hlen⟩⟩

namespace MySql

/-- A table whose names are runs of word characters; its schema may be missing. -/
structure Worded (t : Table) : Prop where
  schema : t.schema = "" ∨ DumpLine.IsName t.schema
  name : DumpLine.IsName t.name
  columns : ∀ c ∈ t.columns, DumpLine.IsName c.name

/-- The tables of a dump are named by words. -/
theorem read_worded (cs : List Char) : ∀ t ∈ (read cs).tables, Worded t := by
  intro t ht
  rw [read_tables] at ht
  obtain ⟨d, hd, rfl⟩ := List.mem_map.1 ht
  have hmerged := (List.mem_filter.1 hd).1
  obtain ⟨hschema, hname⟩ := merged_named (kinds_named cs) d hmerged
  refine ⟨hschema, hname, fun c hc => ?_⟩
  obtain ⟨name, hcolumn, rfl⟩ := List.mem_map.1 hc
  exact merged_columns_named (kinds_named cs) d hmerged name hcolumn

theorem Worded.isUnbroken {t : Table} (h : Worded t) :
    ∀ name ∈ t.schema :: t.name :: t.columnNames, Name.IsUnbroken name := by
  intro name hmem
  rcases List.mem_cons.1 hmem with rfl | hmem
  · rcases h.schema with hs | hs
    · rw [hs]
      exact ⟨List.not_mem_nil, List.not_mem_nil, List.not_mem_nil⟩
    · exact hs.isUnbroken
  rcases List.mem_cons.1 hmem with rfl | hmem
  · exact h.name.isUnbroken
  · obtain ⟨c, hc, rfl⟩ := List.mem_map.1 hmem
    exact (h.columns c hc).isUnbroken

/-- Of a table named by words, a mapping is refused for the length of a name only. -/
theorem Worded.checkMapping_eq_ok_iff {t : Table} (h : Worded t) {m : JobMapping}
    (hm : m ∈ t.mappings) :
    Artifact.checkMapping m = .ok () ↔
      m.schema.length ≤ 128 ∧ m.table.length ≤ 128 ∧ m.column.length ≤ 128 := by
  obtain ⟨c, hc, rfl⟩ := List.mem_map.1 hm
  have hschema : (t.schema ≠ "" → Name.check t.schema = .ok ()) ↔ t.schema.length ≤ 128 := by
    rcases h.schema with hs | hs
    · simp [hs]
    · rw [hs.check_eq_ok_iff, forall_prop_of_true hs.ne_empty]
      rfl
  rw [Artifact.checkMapping_eq_ok_iff, hschema, h.name.check_eq_ok_iff,
    (h.columns c hc).check_eq_ok_iff]
  rfl

/-! ### Missing schemas -/

/-- A table without a qualifier, declared behind lines that choose no schema. -/
def Unqualified (ks : List DumpLine) (t : Table) : Prop :=
  ∃ before after, ks = before ++ DumpLine.create none t.name :: after ∧
    ∀ k ∈ before, chosenSchema? k = none

/-- A schema that is chosen is never empty, so the one in force is empty before any is chosen. -/
theorem chosenSchema?_eq_none {before : List DumpLine} (h : ∀ k ∈ before, k.Named)
    (hs : schemaAfter before = "") : ∀ k ∈ before, chosenSchema? k = none := by
  rw [← List.filterMap_eq_nil_iff, ← List.getLast?_eq_none_iff,
    Option.eq_none_iff_forall_ne_some]
  intro schema hlast
  obtain ⟨k, hk, hchosen⟩ := List.mem_filterMap.1 (List.mem_of_getLast? hlast)
  obtain rfl : schema = "" := by
    rw [← hs, schemaAfter, hlast]
    rfl
  have hn := h k hk
  cases k with
  | use s => cases hchosen; exact hn.ne_empty rfl
  | create qualifier name => exact (hn.1 "" hchosen).ne_empty rfl
  | _ => cases hchosen

/-- A table of a dump has no schema only where none was chosen for it. -/
theorem read_unqualified (cs : List Char) :
    ∀ t ∈ (read cs).tables, t.schema = "" → Unqualified (kinds cs) t := by
  intro t ht hs
  rw [read_tables] at ht
  obtain ⟨m, hm, rfl⟩ := List.mem_map.1 ht
  obtain ⟨key, hkey, rfl⟩ := List.mem_map.1 (List.mem_filter.1 hm).1
  obtain ⟨d, hd, rfl⟩ := List.mem_map.1 (List.mem_eraseDups.1 hkey)
  obtain ⟨before, rest, hks, hat⟩ := mem_placewise.1 hd
  have hnamed := kinds_named cs
  rw [← hks] at hnamed ⊢
  cases rest with
  | nil => cases hat
  | cons k after =>
    cases k with
    | create qualifier name =>
      cases hat
      cases qualifier with
      | none =>
        exact ⟨before, after, rfl, chosenSchema?_eq_none
          (fun k hk => hnamed k (List.mem_append_left _ hk)) hs⟩
      | some schema =>
        have hcreate := hnamed _ (List.mem_append_right before List.mem_cons_self)
        exact absurd hs (hcreate.1 schema rfl).ne_empty
    | _ => cases hat

/-! ### Rendering -/

/-- **A dump can be rendered unless a name is too long.** Reading never fails, and what it finds is
rendered under any package name just where no schema, table or column among the mappings has more
than 128 characters. No name is empty but for a schema that was never chosen, and none holds a null
character or a line break. -/
theorem dump_rendered_iff (cs : List Char) :
    ∃ x, Driver.mysql.read cs = .ok x ∧
      (∀ (package sourceFile mappingsImport : String) (includesTypes : Bool),
        (∃ text, Artifact.render ⟨package, sourceFile, mappingsImport,
            JobMapping.ofTables x.tables, x.tables, includesTypes⟩ = .ok text) ↔
          Artifact.checkPackage package = .ok () ∧
            ∀ m ∈ JobMapping.ofTables x.tables,
              m.schema.length ≤ 128 ∧ m.table.length ≤ 128 ∧ m.column.length ≤ 128) ∧
      ∀ t ∈ x.tables, (t.schema = "" → Unqualified (kinds cs) t) ∧ t.name ≠ "" ∧
        (∀ c ∈ t.columns, c.name ≠ "") ∧
        ∀ name ∈ t.schema :: t.name :: t.columnNames, Name.IsUnbroken name := by
  refine ⟨read cs, rfl, fun package sourceFile mappingsImport includesTypes => ?_,
    fun t ht => ?_⟩
  · rw [Artifact.exists_render_iff]
    refine and_congr_right fun _ => forall₂_congr fun m hm => ?_
    obtain ⟨t, ht, hmt⟩ := List.mem_flatMap.1 hm
    exact (read_worded cs t ht).checkMapping_eq_ok_iff hmt
  · have h := read_worded cs t ht
    exact ⟨read_unqualified cs t ht, h.name.ne_empty, fun c hc => (h.columns c hc).ne_empty,
      h.isUnbroken⟩

end MySql
end SchemaMap
