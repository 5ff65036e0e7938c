/-
# What a MySQL dump declares

The tables of a dump are told from its lines without a scanner. A `CREATE TABLE` line opens a
declaration (`declaredAt?`): its schema is its own qualifier or the one that the lines before it
chose last, and its columns are those of the lines behind it, up to the first that closes a table
or opens another. Declarations of one table are put together at the place of the first
(`merged`), and tables without columns are left out with one note each.

Two things are told of this for itself: putting declarations together is what `addTable` does
one by one (`addTable_merged`), and no column is lost, doubled or moved on the way
(`ownedColumns_eq`, `merged_owned_perm`).

Key definitions: `MySql.declarations`, `MySql.merged`, `MySql.ownedColumns`.
Key theorems: `MySql.addTable_merged`, `MySql.ownedColumns_eq`, `MySql.merged_owned_perm`,
`MySql.declarations_named`, `MySql.key_eq_of_fullName`.
-/
import SchemaMap.Reader.MySql
import SchemaMap.Proofs.Distinct
import SchemaMap.Proofs.Placewise
import SchemaMap.Proofs.Reader.DumpNames

namespace SchemaMap
namespace MySql

/-! ### Declarations, told from the lines -/

/-- The kinds of the lines of a dump. -/
def kinds (cs : List Char) : List DumpLine :=
  (Text.lines cs).map fun l => DumpLine.ofText (Text.trim l)

/-- The schema that a line chooses. -/
def chosenSchema? : DumpLine → Option String
  | .use schema => some schema
  | .create qualifier _ => qualifier
  | _ => none

/-- The schema that was chosen last. -/
def schemaAfter (before : List DumpLine) : String :=
  (before.filterMap chosenSchema?).getLast?.getD ""

/-- The column that a line declares. -/
def columnName? : DumpLine → Option String
  | .column name => some name
  | _ => none

/-- Whether a line ends the declaration it stands behind. -/
def endsDeclaration : DumpLine → Bool
  | .create _ _ => true
  | .close => true
  | _ => false

/-- The columns of a declaration that the lines `after` follow. -/
def bodyColumns (after : List DumpLine) : List String :=
  (after.takeWhile fun k => !endsDeclaration k).filterMap columnName?

/-- The declaration that the first of the lines `rest` opens, behind the lines `before`. -/
def declaredAt? (before : List DumpLine) : (rest : List DumpLine) → Option Declared
  | .create qualifier name :: after =>
    some ⟨qualifier.getD (schemaAfter before), name, bodyColumns after⟩
  | _ => none

/-- The declarations of a dump in order. -/
def declarations (ks : List DumpLine) : List Declared :=
  placewise declaredAt? ks

/-- The schema and the name of a declared table. -/
def Declared.key (d : Declared) : String × String :=
  (d.schema, d.name)

/-- The columns that all declarations of a table list, in order. -/
def columnsOf (key : String × String) (ds : List Declared) : List String :=
  (ds.filter fun d => d.key = key).flatMap (·.columns)

/-- The declared tables, each once, in the order of their first declarations. -/
def merged (ds : List Declared) : List Declared :=
  (ds.map Declared.key).eraseDups.map fun key => ⟨key.1, key.2, columnsOf key ds⟩

/-! ### Lines one by one -/

theorem schemaAfter_append (before : List DumpLine) (k : DumpLine) :
    schemaAfter (before ++ [k]) = (chosenSchema? k).getD (schemaAfter before) := by
  unfold schemaAfter
  cases h : chosenSchema? k <;> simp [h]

@[simp] theorem bodyColumns_nil : bodyColumns [] = [] := rfl

theorem bodyColumns_cons (k : DumpLine) (ks : List DumpLine) :
    bodyColumns (k :: ks) =
      if endsDeclaration k then [] else (columnName? k).toList ++ bodyColumns ks := by
  unfold bodyColumns
  cases he : endsDeclaration k
  · cases hc : columnName? k <;> simp [he, hc]
  · simp [he]

/-! ### Putting declarations together -/

/-- What `addTable` does to tables of distinct keys: the columns are added at the place of
the key, which is the last one if it is new. -/
theorem addTable_map (d : Declared) (f : String × String → List String) :
    ∀ keys : List (String × String), keys.Nodup →
      addTable d (keys.map fun k => ⟨k.1, k.2, f k⟩) =
        if d.key ∈ keys then
          keys.map fun k => ⟨k.1, k.2, if k = d.key then f k ++ d.columns else f k⟩
        else (keys.map fun k => ⟨k.1, k.2, f k⟩) ++ [d]
  | [], _ => by simp [addTable]
  | k :: keys, hn => by
    rw [List.nodup_cons] at hn
    have ih := addTable_map d f keys hn.2
    have hsame : Declared.same ⟨k.1, k.2, f k⟩ d = decide (k = d.key) := by
      rw [Bool.eq_iff_iff]
      simp [Declared.same, Declared.key, Prod.ext_iff]
    rw [List.map_cons, addTable, hsame]
    by_cases hk : k = d.key
    · have hrest : ∀ k' ∈ keys, k' ≠ d.key := fun k' h he => hn.1 (hk ▸ he ▸ h)
      simp only [hk, decide_true, if_true, List.mem_cons, true_or, List.map_cons]
      congr 1
      refine List.map_congr_left fun k' h => ?_
      rw [if_neg (hrest k' h)]
    · have hne : ¬ d.key = k := fun h => hk h.symm
      simp only [hk, decide_false, Bool.false_eq_true, if_false, List.mem_cons, hne, false_or, ih]
      by_cases hm : d.key ∈ keys
      · simp only [hm, if_true, List.map_cons, hk, if_false]
      · simp only [hm, if_false, List.cons_append]

theorem columnsOf_append (key : String × String) (ds : List Declared) (d : Declared) :
    columnsOf key (ds ++ [d]) =
      if key = d.key then columnsOf key ds ++ d.columns else columnsOf key ds := by
  unfold columnsOf
  by_cases h : key = d.key
  · simp [h]
  · have h' : ¬ d.key = key := fun e => h e.symm
    simp [h, h']

/-- One more declaration. -/
theorem addTable_merged (d : Declared) (ds : List Declared) :
    addTable d (merged ds) = merged (ds ++ [d]) := by
  have hkeys : ((ds ++ [d]).map Declared.key).eraseDups =
      if d.key ∈ ds.map Declared.key then (ds.map Declared.key).eraseDups
      else (ds.map Declared.key).eraseDups ++ [d.key] := by
    rw [List.map_append]
    exact eraseDups_concat _ _
  unfold merged
  rw [addTable_map d _ _ (nodup_eraseDups _), hkeys]
  simp only [List.mem_eraseDups, columnsOf_append]
  by_cases h : d.key ∈ ds.map Declared.key
  · rw [if_pos h, if_pos h]
  · have hnew : columnsOf d.key ds = [] := by
      unfold columnsOf
      rw [List.flatMap_eq_nil_iff]
      intro d' hd'
      simp only [List.mem_filter, decide_eq_true_eq] at hd'
      exact absurd (List.mem_map.2 ⟨d', hd'.1, hd'.2⟩) h
    rw [if_neg h, if_neg h, List.map_append]
    congr 1
    · refine List.map_congr_left fun k hk => ?_
      have hne : k ≠ d.key := by
        rintro rfl
        exact h (List.mem_eraseDups.1 hk)
      rw [if_neg hne]
    · simp only [List.map_cons, List.map_nil, if_true, hnew, List.nil_append]
      rfl

/-! ### Whose column a line declares -/

/-- The table that is open behind the lines `before`: that of the last `CREATE TABLE` line,
unless a closing line stands behind it. -/
def openAfter? (before : List DumpLine) : Option (String × String) :=
  match before.reverse.dropWhile fun k => !endsDeclaration k with
  | .create qualifier name :: earlier =>
    some (qualifier.getD (schemaAfter earlier.reverse), name)
  | _ => none

/-- The column that the first of the lines `rest` declares inside a declaration, with the
table it belongs to. -/
def ownedAt? (before : List DumpLine) : (rest : List DumpLine) →
    Option ((String × String) × String)
  | .column name :: _ => (openAfter? before).map fun key => (key, name)
  | _ => none

/-- The columns inside declarations, line by line, each with the table it belongs to. -/
def ownedColumns (ks : List DumpLine) : List ((String × String) × String) :=
  placewise ownedAt? ks

/-- The columns of a declaration, each with the table it belongs to. -/
def Declared.owned (d : Declared) : List ((String × String) × String) :=
  d.columns.map fun c => (d.key, c)

theorem openAfter?_append (before : List DumpLine) (k : DumpLine) :
    openAfter? (before ++ [k]) =
      match k with
      | .create qualifier name => some (qualifier.getD (schemaAfter before), name)
      | .close => none
      | _ => openAfter? before := by
  unfold openAfter?
  rw [List.reverse_append, List.reverse_singleton, List.singleton_append]
  cases k <;> simp [endsDeclaration]

/-- The columns of the declarations in order are the owned columns in order: those of the
declaration that is open first. -/
theorem ownedFrom_eq : ∀ (ks before : List DumpLine),
    placewiseFrom ownedAt? before ks =
      ((openAfter? before).toList.flatMap fun key => (bodyColumns ks).map fun c => (key, c))
        ++ (placewiseFrom declaredAt? before ks).flatMap Declared.owned
  | [], before => by
    rw [placewiseFrom_nil, placewiseFrom_nil]
    cases openAfter? before <;> rfl
  | k :: ks, before => by
    rw [placewiseFrom_cons, ownedFrom_eq ks, placewiseFrom_cons, bodyColumns_cons,
      openAfter?_append]
    cases k with
    | create qualifier name =>
      simp [ownedAt?, declaredAt?, endsDeclaration, Declared.owned, Declared.key]
    | column name =>
      cases h : openAfter? before <;>
        simp [ownedAt?, declaredAt?, endsDeclaration, columnName?, h]
    | close => simp [ownedAt?, declaredAt?, endsDeclaration]
    | use schema => simp [ownedAt?, declaredAt?, endsDeclaration, columnName?]
    | key => simp [ownedAt?, declaredAt?, endsDeclaration, columnName?]
    | silent => simp [ownedAt?, declaredAt?, endsDeclaration, columnName?]
    | unknown => simp [ownedAt?, declaredAt?, endsDeclaration, columnName?]

/-- **Every column line inside a declaration is listed once, under its own table.** -/
theorem ownedColumns_eq (ks : List DumpLine) :
    ownedColumns ks = (declarations ks).flatMap Declared.owned :=
  ownedFrom_eq ks []

/-- Putting declarations together moves columns, but loses and doubles none. -/
theorem addTable_owned_perm (d : Declared) : ∀ ts : List Declared,
    ((addTable d ts).flatMap Declared.owned).Perm (ts.flatMap Declared.owned ++ d.owned)
  | [] => by simp [addTable]
  | t :: ts => by
    unfold addTable
    split
    · rename_i h
      have hkey : t.key = d.key := by
        simpa [Declared.same, Declared.key, Prod.ext_iff] using h
      have howned : Declared.owned { t with columns := t.columns ++ d.columns } =
          t.owned ++ d.owned := by
        have hkey' : Declared.key { t with columns := t.columns ++ d.columns } = t.key := rfl
        simp only [Declared.owned, List.map_append, hkey', hkey]
      rw [List.flatMap_cons, List.flatMap_cons, howned, List.append_assoc, List.append_assoc]
      exact (List.perm_append_comm).append_left _
    · rw [List.flatMap_cons, List.flatMap_cons, List.append_assoc]
      exact (addTable_owned_perm d ts).append_left _

theorem merged_owned_perm (ds : List Declared) :
    ((merged ds).flatMap Declared.owned).Perm (ds.flatMap Declared.owned) := by
  induction ds using List.reverseRecOn with
  | nil => exact List.Perm.refl _
  | append_singleton ds d ih =>
    rw [← addTable_merged, List.flatMap_append, List.flatMap_singleton]
    exact (addTable_owned_perm d _).trans (ih.append_right _)

/-! ### The names of declared tables -/

/-- A declared table has a name, and its schema has one or is missing. -/
def Declared.Named (d : Declared) : Prop :=
  (d.schema = "" ∨ DumpLine.IsName d.schema) ∧ DumpLine.IsName d.name

theorem kinds_named (cs : List Char) : ∀ k ∈ kinds cs, k.Named := by
  intro k hk
  obtain ⟨l, -, rfl⟩ := List.mem_map.1 hk
  exact DumpLine.ofText_named _

theorem schemaAfter_named {before : List DumpLine} (h : ∀ k ∈ before, k.Named) :
    schemaAfter before = "" ∨ DumpLine.IsName (schemaAfter before) := by
  unfold schemaAfter
  cases hl : (before.filterMap chosenSchema?).getLast? with
  | none => left; rfl
  | some schema =>
    right
    obtain ⟨k, hk, hs⟩ := List.mem_filterMap.1 (List.mem_of_getLast? hl)
    have hn := h k hk
    cases k with
    | use s => cases hs; exact hn
    | create qualifier name => exact hn.1 schema hs
    | _ => cases hs

theorem declarations_named {ks : List DumpLine} (h : ∀ k ∈ ks, k.Named) :
    ∀ d ∈ declarations ks, d.Named := by
  intro d hd
  obtain ⟨before, rest, rfl, hat⟩ := mem_placewise.1 hd
  cases rest with
  | nil => cases hat
  | cons k after =>
    cases k with
    | create qualifier name =>
      have hbefore : ∀ k ∈ before, k.Named := fun k hk => h k (List.mem_append_left _ hk)
      have hcreate : (DumpLine.create qualifier name).Named :=
        h _ (List.mem_append_right _ List.mem_cons_self)
      cases hat
      refine ⟨?_, hcreate.2⟩
      cases qualifier with
      | none => exact schemaAfter_named hbefore
      | some schema => exact Or.inr (hcreate.1 schema rfl)
    | _ => cases hat

theorem merged_named {ks : List DumpLine} (h : ∀ k ∈ ks, k.Named) :
    ∀ t ∈ merged (declarations ks), t.Named := by
  intro t ht
  obtain ⟨key, hk, rfl⟩ := List.mem_map.1 ht
  obtain ⟨d, hd, rfl⟩ := List.mem_map.1 (List.mem_eraseDups.1 hk)
  exact declarations_named h d hd

/-- The columns of a declaration are named on lines of their own. -/
theorem bodyColumns_named {ks : List DumpLine} (h : ∀ k ∈ ks, k.Named) :
    ∀ c ∈ bodyColumns ks, DumpLine.IsName c := by
  intro c hc
  obtain ⟨k, hk, hname⟩ := List.mem_filterMap.1 hc
  have hn := h k ((List.takeWhile_sublist _).subset hk)
  cases k with
  | column name => cases hname; exact hn
  | _ => cases hname

theorem declarations_columns_named {ks : List DumpLine} (h : ∀ k ∈ ks, k.Named) :
    ∀ d ∈ declarations ks, ∀ c ∈ d.columns, DumpLine.IsName c := by
  intro d hd
  obtain ⟨before, rest, rfl, hat⟩ := mem_placewise.1 hd
  cases rest with
  | nil => cases hat
  | cons k after =>
    cases k with
    | create qualifier name =>
      cases hat
      exact bodyColumns_named fun k hk =>
        h k (List.mem_append_right before (List.mem_cons_of_mem _ hk))
    | _ => cases hat

theorem merged_columns_named {ks : List DumpLine} (h : ∀ k ∈ ks, k.Named) :
    ∀ t ∈ merged (declarations ks), ∀ c ∈ t.columns, DumpLine.IsName c := by
  intro t ht c hc
  obtain ⟨key, -, rfl⟩ := List.mem_map.1 ht
  obtain ⟨d, hd, hcd⟩ := List.mem_flatMap.1 hc
  exact declarations_columns_named h d (List.mem_filter.1 hd).1 c hcd

theorem merged_key_nodup (ds : List Declared) : ((merged ds).map Declared.key).Nodup := by
  have h : (merged ds).map Declared.key = (ds.map Declared.key).eraseDups := by
    simp [merged, Function.comp_def, Declared.key]
  rw [h]
  exact nodup_eraseDups _

/-- Names hold no dots, so a full name tells the schema from the name. -/
theorem key_eq_of_fullName {d e : Declared} (hd : d.Named) (h : d.fullName = e.fullName) :
    d.key = e.key := by
  have noDot {s : String} (hs : s = "" ∨ DumpLine.IsName s) : '.' ∉ s.toList := by
    rcases hs with rfl | hs
    · decide
    · exact fun hm => absurd (hs.2 _ hm) (by decide)
  have hl : d.schema.toList ++ '.' :: d.name.toList =
      e.schema.toList ++ '.' :: e.name.toList := by
    have := congrArg String.toList h
    simpa [Declared.fullName] using this
  obtain ⟨hschema, -, hname⟩ := (List.append_cons_inj_of_notMem (noDot hd.1)
    (noDot (Or.inr hd.2))).1 hl
  exact Prod.ext (String.toList_inj.1 hschema) (String.toList_inj.1 hname)

end MySql
end SchemaMap
