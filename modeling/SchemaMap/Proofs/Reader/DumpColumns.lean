/-
# Which lines of a MySQL dump add columns

A line of a dump adds at most one column, and the columns of the tables that are read are those
that its lines add (`read_added`). Whether a line adds the column it is read as depends on the
lines before it: from a `CREATE TABLE` line up to the next one, the lines add their columns to its
table until one of them starts with a closing parenthesis (`Stretch.openAfter?_eq`). What else
stands on the `CREATE TABLE` line is not looked at. So a line that holds the whole statement leaves
its table open, and what looks like a column in the statements behind it is added.

Key definitions: `MySql.added?`, `MySql.tableColumns`, `MySql.Stretch`, `MySql.holdsWhole`.
Key theorems: `MySql.read_added`, `MySql.Stretch.openAfter?_eq`, `MySql.added_none_iff`.
-/
import SchemaMap.Proofs.Reader.DumpScan
import SchemaMap.Script.Declaration
import Mathlib.Tactic.IntervalCases

namespace SchemaMap
namespace MySql

/-! ### The column of a line -/

/-- The columns of tables, each with the table it belongs to. -/
def tableColumns (ts : List Table) : List ((String × String) × String) :=
  ts.flatMap fun t => t.columns.map fun c => ((t.schema, t.name), c.name)

/-- The column that the line at the place `i` adds, with the table it goes to. -/
def added? (ks : List DumpLine) (i : Nat) : Option ((String × String) × String) :=
  ownedAt? (ks.take i) (ks.drop i)

variable {ks : List DumpLine} {i j m : Nat}

theorem added?_eq_some {key : String × String} {c : String} :
    added? ks i = some (key, c) ↔
      ks[i]? = some (.column c) ∧ openAfter? (ks.take i) = some key := by
  obtain ⟨schema, name⟩ := key
  unfold added?
  rw [← List.head?_drop]
  cases hd : ks.drop i with
  | nil => simp [ownedAt?]
  | cons k rest => cases k <;> simp [ownedAt?, and_comm]

theorem added?_eq_none :
    added? ks i = none ↔ ∀ c, ks[i]? = some (.column c) → openAfter? (ks.take i) = none := by
  rw [Option.eq_none_iff_forall_ne_some]
  constructor
  · intro h c hc
    rw [Option.eq_none_iff_forall_ne_some]
    intro key hkey
    exact h (key, c) (added?_eq_some.2 ⟨hc, hkey⟩)
  · rintro h ⟨key, c⟩ hadded
    obtain ⟨hc, hkey⟩ := added?_eq_some.1 hadded
    rw [h c hc] at hkey
    cases hkey

theorem ownedColumns_eq_filterMap (ks : List DumpLine) :
    ownedColumns ks = (List.range ks.length).filterMap (added? ks) := by
  have hend : added? ks ks.length = none := by
    rw [added?, List.drop_length]
    rfl
  have hall : ownedColumns ks = (List.range (ks.length + 1)).filterMap (added? ks) :=
    placewiseFrom_eq_filterMap ownedAt? ks []
  rw [hall, List.range_succ, List.filterMap_append, List.filterMap_cons_none hend,
    List.filterMap_nil, List.append_nil]

/-- **The columns that are read are those that the lines add.** -/
theorem read_added (cs : List Char) :
    ∃ x, Driver.mysql.read cs = .ok x ∧ (tableColumns x.tables).Perm
      ((List.range (kinds cs).length).filterMap (added? (kinds cs))) := by
  refine ⟨read cs, rfl, ?_⟩
  rw [← ownedColumns_eq_filterMap]
  exact read_owned_perm cs

/-! ### From one `CREATE TABLE` line to the next -/

/-- The lines from a `CREATE TABLE` line at the place `i` up to the place `j`, without another
such line in between. -/
structure Stretch (ks : List DumpLine) (i j : Nat) where
  qualifier : Option String
  name : String
  opens : ks[i]? = some (.create qualifier name)
  alone : ∀ l, i < l → l < j → ∀ q n, ks[l]? ≠ some (.create q n)

/-- The table that the first line opens. -/
def Stretch.key (s : Stretch ks i j) : String × String :=
  (s.qualifier.getD (schemaAfter (ks.take i)), s.name)

/-- **The table stays open until a line closes it**, and none is open from there on. -/
theorem Stretch.openAfter?_eq (s : Stretch ks i j) (him : i < m) (hmj : m ≤ j) :
    openAfter? (ks.take m) =
      if ∃ l < m, i < l ∧ ks[l]? = some .close then none else some s.key := by
  induction m, him using Nat.le_induction with
  | base =>
    have hnone : ¬ ∃ l < i.succ, i < l ∧ ks[l]? = some .close := by
      rintro ⟨l, hl, hil, -⟩
      omega
    rw [if_neg hnone, Nat.succ_eq_add_one, List.take_add_one, s.opens, Option.toList_some,
      openAfter?_append]
    rfl
  | succ m him ih =>
    have ih := ih (by omega)
    simp only [Nat.exists_lt_succ_right]
    rw [List.take_add_one]
    cases hm : ks[m]? with
    | none => simp [ih]
    | some k =>
      rw [Option.toList_some, openAfter?_append]
      cases k with
      | create q n => exact absurd hm (s.alone m him (by omega) q n)
      | close => simp [Nat.lt_of_succ_le him]
      | _ => simp [ih]

/-- A column behind a `CREATE TABLE` line is added to its table, up to the first closing line. -/
theorem Stretch.added?_eq_none_iff (s : Stretch ks i j) (him : i < m) (hmj : m < j) :
    added? ks m = none ↔
      ∀ c, ks[m]? = some (.column c) → ∃ l < m, i < l ∧ ks[l]? = some .close := by
  rw [added?_eq_none, s.openAfter?_eq him hmj.le]
  simp

/-! ### Behind a whole statement -/

/-- Whether a line holds a whole statement with a column list: its first parenthesis is closed
on it, and it ends with a semicolon. -/
def holdsWhole (line : List Char) : Bool :=
  ((Script.splitAtOpen? (Script.tagged line)).bind fun (_, more) =>
    Script.bodyUpToClose? 0 more).isSome && line.getLast? == some ';'

/-- **When the lines behind a `CREATE TABLE` line add nothing.** The columns that are read are
those that the lines add, and up to the next `CREATE TABLE` line there are none just where every
line in the shape of a column comes behind one that starts with a closing parenthesis. -/
theorem added_none_iff (cs : List Char) (s : Stretch (kinds cs) i j) :
    ∃ x, Driver.mysql.read cs = .ok x ∧
      (tableColumns x.tables).Perm
        ((List.range (kinds cs).length).filterMap (added? (kinds cs))) ∧
      ((∀ m, i < m → m < j → added? (kinds cs) m = none) ↔
        ∀ m, i < m → m < j → ∀ c, (kinds cs)[m]? = some (.column c) →
          ∃ l < m, i < l ∧ (kinds cs)[l]? = some .close) := by
  obtain ⟨x, hread, hcolumns⟩ := read_added cs
  refine ⟨x, hread, hcolumns, ?_⟩
  constructor
  · intro h m him hmj
    exact (s.added?_eq_none_iff him hmj).1 (h m him hmj)
  · intro h m him hmj
    exact (s.added?_eq_none_iff him hmj).2 (h m him hmj)

/-- A dump with a whole statement on its first line, and a closing line behind it. -/
def closedDump : List Char :=
  ("CREATE TABLE shop.orders (id INT);\n) ENGINE=InnoDB;\nDROP TABLE IF EXISTS shop.items;\n"
    ++ "CREATE TABLE shop.items (\n  id INT\n);\n").toList

theorem kinds_closedDump : kinds closedDump =
    [.create (some "shop") "orders", .close, .column "DROP", .create (some "shop") "items",
      .column "id", .close] := by
  decide +kernel

/-- The lines of it that stand before the second `CREATE TABLE`. -/
def closedStretch : Stretch (kinds closedDump) 0 3 where
  qualifier := some "shop"
  name := "orders"
  opens := by rw [kinds_closedDump]; rfl
  alone := by
    intro l hl hl3 q n
    rw [kinds_closedDump]
    interval_cases l <;> simp

theorem added_none_closedDump :
    (Text.lines closedDump).head?.any holdsWhole = true ∧
      ∃ x, Driver.mysql.read closedDump = .ok x ∧
        (tableColumns x.tables).Perm [(("shop", "items"), "id")] ∧
        ∀ m, 0 < m → m < 3 → added? (kinds closedDump) m = none := by
  obtain ⟨x, hread, hcolumns, hiff⟩ := added_none_iff closedDump closedStretch
  refine ⟨by decide +kernel, x, hread, ?_, hiff.2 ?_⟩
  · rw [kinds_closedDump] at hcolumns
    exact hcolumns
  · intro m hm hm3 c hc
    rw [kinds_closedDump] at hc ⊢
    -- the one column line is the second behind the statement
    have hm2 : m = 2 := by
      interval_cases m
      · simp at hc
      · rfl
    exact ⟨1, by omega, by omega, rfl⟩

/-- A dump in which another statement follows a whole one. -/
def alteredDump : List Char :=
  ("CREATE TABLE shop.orders (id INT);\nALTER TABLE shop.orders\n"
    ++ "  ADD CONSTRAINT orders_pk PRIMARY KEY (id);\n").toList

/-- A line of the next statement is taken for a column, though the `CREATE TABLE` line holds its
whole statement and there is no other. -/
theorem column_behind_whole :
    (Text.lines alteredDump).head?.any holdsWhole = true ∧
      kinds alteredDump = [.create (some "shop") "orders", .key, .column "ADD"] ∧
      added? (kinds alteredDump) 2 = some (("shop", "orders"), "ADD") ∧
      ∃ x, Driver.mysql.read alteredDump = .ok x ∧
        x.tables = [⟨"shop", "orders", [⟨"ADD", none⟩]⟩] := by
  have hkinds : kinds alteredDump =
      [.create (some "shop") "orders", .key, .column "ADD"] := by
    decide +kernel
  refine ⟨by decide +kernel, hkinds, ?_, read alteredDump, rfl, ?_⟩
  · rw [hkinds]
    rfl
  · rw [read_tables, hkinds]
    rfl

end MySql
end SchemaMap
