/-
# How often a column of a MySQL dump is mapped

Every column of a table becomes one job mapping. A table that is declared again gets the columns of
the new declaration behind those it has, whether it has them already or not. So a column is mapped as
often as the declarations of its table list it (`count_owned`), and that no declaration lists a column
twice does not keep a column from being mapped twice.

Key definitions: `JobMapping.target`.
Key theorems: `MySql.count_owned`, `MySql.owned_nodup_iff`, `MySql.mappings_nodup_iff`.
-/
import SchemaMap.Proofs.Reader.DumpColumns
import Mathlib.Data.List.Count

namespace SchemaMap

/-- The column that a mapping is for, with the table it belongs to. -/
def JobMapping.target (m : JobMapping) : (String × String) × String :=
  ((m.schema, m.table), m.column)

namespace MySql

theorem map_target (ts : List Table) :
    (JobMapping.ofTables ts).map JobMapping.target = tableColumns ts := by
  unfold JobMapping.ofTables tableColumns
  rw [List.map_flatMap]
  simp [Table.mappings, JobMapping.target, Function.comp_def]

/-! ### The columns of several declarations -/

/-- A column stands there as often as the declarations of its table list it. -/
theorem count_owned (key : String × String) (c : String) : ∀ ds : List Declared,
    (ds.flatMap Declared.owned).count (key, c) =
      (ds.map fun d => if d.key = key then d.columns.count c else 0).sum
  | [] => rfl
  | d :: ds => by
    have ih := count_owned key c ds
    have hd : d.owned.count (key, c) = if d.key = key then d.columns.count c else 0 := by
      unfold Declared.owned
      by_cases hk : d.key = key
      · have hinj : Function.Injective fun c : String => (d.key, c) := Prod.mk_right_injective d.key
        rw [if_pos hk, ← hk]
        exact List.count_map_of_injective d.columns _ hinj c
      · rw [if_neg hk, List.count_eq_zero]
        simp [hk]
    rw [List.flatMap_cons, List.count_append, hd, ih, List.map_cons, List.sum_cons]

/-- No column stands there twice just where no declaration lists one twice, and no two declarations
of one table list the same. -/
theorem owned_nodup_iff (ds : List Declared) :
    (ds.flatMap Declared.owned).Nodup ↔
      (∀ d ∈ ds, d.columns.Nodup) ∧
        ds.Pairwise fun d e => d.key = e.key → d.columns.Disjoint e.columns := by
  have hone (d : Declared) : d.owned.Nodup ↔ d.columns.Nodup :=
    List.nodup_map_iff (Prod.mk_right_injective d.key)
  have htwo (d e : Declared) :
      d.owned.Disjoint e.owned ↔ (d.key = e.key → d.columns.Disjoint e.columns) := by
    constructor
    · intro h hkey c hd he
      exact h (List.mem_map.2 ⟨c, hd, rfl⟩) (List.mem_map.2 ⟨c, he, by rw [hkey]⟩)
    · intro h x hd he
      obtain ⟨c, hc, rfl⟩ := List.mem_map.1 hd
      obtain ⟨c', hc', heq⟩ := List.mem_map.1 he
      obtain ⟨hkey, rfl⟩ := Prod.mk.inj heq
      exact h hkey.symm hc hc'
  rw [List.nodup_flatMap]
  exact and_congr (forall₂_congr fun d _ => hone d) (List.Pairwise.iff fun {d e} => htwo d e)

/-! ### The mappings of a dump -/

/-- **How often a column is mapped.** Reading never fails, and a column is mapped as often as the
declarations of its table list it. So none is mapped twice just where no declaration lists a column
twice, and no two declarations of one table list the same column. -/
theorem mappings_nodup_iff (cs : List Char) :
    ∃ x, Driver.mysql.read cs = .ok x ∧
      (∀ key c, ((JobMapping.ofTables x.tables).map JobMapping.target).count (key, c) =
        ((declarations (kinds cs)).map fun d =>
          if d.key = key then d.columns.count c else 0).sum) ∧
      (((JobMapping.ofTables x.tables).map JobMapping.target).Nodup ↔
        (∀ d ∈ declarations (kinds cs), d.columns.Nodup) ∧
          (declarations (kinds cs)).Pairwise fun d e =>
            d.key = e.key → d.columns.Disjoint e.columns) := by
  have hperm : ((JobMapping.ofTables (read cs).tables).map JobMapping.target).Perm
      ((declarations (kinds cs)).flatMap Declared.owned) := by
    rw [map_target, ← ownedColumns_eq]
    exact read_owned_perm cs
  refine ⟨read cs, rfl, fun key c => ?_, ?_⟩
  · rw [hperm.count_eq, count_owned]
  · rw [hperm.nodup_iff, owned_nodup_iff]

/-- A dump that declares a table twice. -/
def twiceDump : List Char :=
  ("CREATE TABLE shop.orders (\n  id INT\n);\n"
    ++ "CREATE TABLE shop.orders (\n  id INT\n);\n").toList

/-- A column is mapped twice, though no declaration lists it twice. -/
theorem column_mapped_twice :
    (∀ d ∈ declarations (kinds twiceDump), d.columns.Nodup) ∧
      ∃ x, Driver.mysql.read twiceDump = .ok x ∧
        (JobMapping.ofTables x.tables).map JobMapping.target =
          [(("shop", "orders"), "id"), (("shop", "orders"), "id")] := by
  have hkinds : kinds twiceDump =
      [.create (some "shop") "orders", .column "id", .close,
        .create (some "shop") "orders", .column "id", .close] := by
    decide +kernel
  refine ⟨by rw [hkinds]; decide +kernel, read twiceDump, rfl, ?_⟩
  rw [read_tables, hkinds]
  decide +kernel

end MySql
end SchemaMap
