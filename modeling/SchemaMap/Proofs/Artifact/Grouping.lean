/-
# What the type map lists

The type map is put together table by table and column by column. Told from all tables at once
(`declared`), it has one entry for each full name, in the order of their first tables; the entry
takes the columns of all tables of that name together, each column name once, with the type of
the first column of that name. `ofTables_eq` says that the two agree.

Both the map and its entries grow by one item at a time at the place of its key, so both are
followed through one step first (`add_declared`, `addColumn_firstTypes`).

Key definitions: `TypeMap.firstTypes`, `TypeMap.columnsNamed`, `TypeMap.declared`.
Key theorems: `TypeMap.update_map`, `TypeMap.foldl_addColumn`, `TypeMap.ofTables_eq`,
`TypeMap.declared_keys_nodup`.
-/
import SchemaMap.Artifact.TypeMap
import SchemaMap.Proofs.Distinct

namespace SchemaMap
namespace TypeMap

/-- The declared type of the first column of a name. -/
def firstType (columns : List Column) (name : String) : String :=
  ((columns.find? fun c => c.name == name).bind (·.typeName)).getD ""

/-- The columns by name, each name once, with their declared types. -/
def firstTypes (columns : List Column) : List (String × String) :=
  (columns.map (·.name)).eraseDups.map fun name => (name, firstType columns name)

/-- The columns of all tables of a full name, in order. -/
def columnsNamed (tables : List Table) (key : String) : List Column :=
  (tables.filter fun t => t.fullName = key).flatMap (·.columns)

/-- The declared types of the columns, grouped by the full names of their tables. -/
def declared (tables : List Table) : TypeMap :=
  (tables.map Table.fullName).eraseDups.map fun key => (key, firstTypes (columnsNamed tables key))

/-! ### The columns of an entry -/

theorem firstType_concat (columns : List Column) (c : Column) (name : String) :
    firstType (columns ++ [c]) name =
      if name ∈ columns.map (·.name) then firstType columns name
      else if c.name = name then c.typeName.getD "" else "" := by
  unfold firstType
  rw [List.find?_append]
  cases hf : columns.find? fun c => c.name == name with
  | some d =>
    have hm : name ∈ columns.map (·.name) :=
      List.mem_map.2 ⟨d, List.mem_of_find?_eq_some hf, by simpa using List.find?_some hf⟩
    rw [if_pos hm]
    rfl
  | none =>
    have hm : name ∉ columns.map (·.name) := by
      rw [List.mem_map]
      rintro ⟨d, hd, hn⟩
      exact absurd hn (by simpa using List.find?_eq_none.1 hf d hd)
    rw [if_neg hm]
    by_cases hc : c.name = name <;> simp [hc]

/-- One more column. -/
theorem addColumn_firstTypes (columns : List Column) (c : Column) :
    addColumn (firstTypes columns) c = firstTypes (columns ++ [c]) := by
  have hany : ((firstTypes columns).any fun known => known.1 == c.name) =
      decide (c.name ∈ columns.map (·.name)) := by
    rw [Bool.eq_iff_iff]
    simp [firstTypes]
  have hold : (columns.map (·.name)).eraseDups.map
      (fun name => (name, firstType (columns ++ [c]) name)) = firstTypes columns := by
    refine List.map_congr_left fun name hn => ?_
    rw [firstType_concat, if_pos (List.mem_eraseDups.1 hn)]
  unfold addColumn
  rw [hany, firstTypes.eq_1 (columns ++ [c]), List.map_append, List.map_singleton,
    eraseDups_concat]
  by_cases h : c.name ∈ columns.map (·.name)
  · rw [if_pos h, hold]
    simp [h]
  · rw [if_neg h, List.map_append, hold, List.map_singleton, firstType_concat, if_neg h]
    simp [h]

theorem foldl_addColumn_firstTypes (columns : List Column) : ∀ more : List Column,
    more.foldl addColumn (firstTypes columns) = firstTypes (columns ++ more)
  | [] => by rw [List.append_nil]; rfl
  | c :: more => by
    rw [List.foldl_cons, addColumn_firstTypes, foldl_addColumn_firstTypes (columns ++ [c]) more,
      List.append_assoc, List.singleton_append]

/-! ### The entries of the map -/

/-- What `update` does to a map of distinct keys: the entry of the key is changed, and a missing
one is added last. -/
theorem update_map (key : String) (f : List (String × String) → List (String × String))
    (g : String → List (String × String)) :
    ∀ keys : List String, keys.Nodup →
      update key f (keys.map fun k => (k, g k)) =
        if key ∈ keys then keys.map fun k => (k, if k = key then f (g k) else g k)
        else (keys.map fun k => (k, g k)) ++ [(key, f [])]
  | [], _ => by simp [update]
  | k :: keys, hn => by
    rw [List.nodup_cons] at hn
    have ih := update_map key f g keys hn.2
    rw [List.map_cons, update]
    by_cases hk : k = key
    · have hrest : ∀ k' ∈ keys, k' ≠ key := fun k' h he => hn.1 (hk ▸ he ▸ h)
      simp only [hk, if_true, List.mem_cons, true_or, List.map_cons]
      congr 1
      refine List.map_congr_left fun k' h => ?_
      rw [if_neg (hrest k' h)]
    · have hne : ¬ key = k := fun h => hk h.symm
      simp only [hk, if_false, List.mem_cons, hne, false_or, ih]
      by_cases hm : key ∈ keys
      · simp only [hm, if_true, List.map_cons, hk, if_false]
      · simp only [hm, if_false, List.cons_append]

theorem columnsNamed_concat (tables : List Table) (t : Table) (key : String) :
    columnsNamed (tables ++ [t]) key =
      if key = t.fullName then columnsNamed tables key ++ t.columns
      else columnsNamed tables key := by
  unfold columnsNamed
  by_cases h : key = t.fullName
  · simp [h]
  · have h' : ¬ t.fullName = key := fun e => h e.symm
    simp [h, h']

/-- One more table. -/
theorem add_declared (tables : List Table) (t : Table) :
    add (declared tables) t = declared (tables ++ [t]) := by
  unfold add declared
  rw [update_map _ _ _ _ (nodup_eraseDups _), List.map_append, List.map_singleton,
    eraseDups_concat]
  simp only [List.mem_eraseDups, columnsNamed_concat]
  by_cases h : t.fullName ∈ tables.map Table.fullName
  · rw [if_pos h, if_pos h]
    refine List.map_congr_left fun k _ => ?_
    by_cases hk : k = t.fullName
    · rw [if_pos hk, if_pos hk, foldl_addColumn_firstTypes]
    · rw [if_neg hk, if_neg hk]
  · have hnew : columnsNamed tables t.fullName = [] := by
      unfold columnsNamed
      rw [List.flatMap_eq_nil_iff]
      intro t' ht'
      simp only [List.mem_filter, decide_eq_true_eq] at ht'
      exact absurd (List.mem_map.2 ⟨t', ht'.1, ht'.2⟩) h
    have hcolumns : t.columns.foldl addColumn [] = firstTypes t.columns :=
      foldl_addColumn_firstTypes [] t.columns
    rw [if_neg h, if_neg h, List.map_append]
    congr 1
    · refine List.map_congr_left fun k hk => ?_
      have hne : k ≠ t.fullName := by
        rintro rfl
        exact h (List.mem_eraseDups.1 hk)
      rw [if_neg hne]
    · rw [List.map_singleton, if_pos rfl, hnew, List.nil_append, hcolumns]

theorem foldl_add_declared (tables : List Table) : ∀ more : List Table,
    more.foldl add (declared tables) = declared (tables ++ more)
  | [] => by rw [List.append_nil]; rfl
  | t :: more => by
    rw [List.foldl_cons, add_declared, foldl_add_declared (tables ++ [t]) more, List.append_assoc,
      List.singleton_append]

/-- **The type map has one entry for each full name**, in the order of the first tables of that
name, and in it each column name once, with the type of its first column. -/
theorem ofTables_eq (tables : List Table) : ofTables tables = declared tables :=
  foldl_add_declared [] tables

theorem declared_keys (tables : List Table) :
    (declared tables).map Prod.fst = (tables.map Table.fullName).eraseDups := by
  unfold declared
  rw [List.map_map]
  exact List.map_id _

theorem declared_keys_nodup (tables : List Table) : ((declared tables).map Prod.fst).Nodup := by
  rw [declared_keys]
  exact nodup_eraseDups _

/-- Only the map of no tables is empty. -/
theorem declared_eq_nil {tables : List Table} : declared tables = [] ↔ tables = [] := by
  cases tables with
  | nil => simp [declared]
  | cons t tables => simp [declared, List.eraseDups_cons]

end TypeMap
end SchemaMap
