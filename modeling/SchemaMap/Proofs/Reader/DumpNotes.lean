/-
# The notes on the lines of a MySQL dump

A scan never takes a note back (`Scan.notes_take`), and the table it has open is the one that the
lines before tell (`Scan.openKey_takeAll`). So a line inside a table that is none of the known kinds
is noted with its number and its text, whatever comes behind it.

Key definitions: `MySql.Scan.openKey?`, `MySql.scanBefore`, `MySql.unknownNote`.
Key theorems: `MySql.Scan.notes_takeAll`, `MySql.Scan.openKey_takeAll`, `MySql.scanBefore_succ`,
`MySql.read_eq_scanBefore`, `MySql.note_of_unknown`.
-/
import SchemaMap.Proofs.Reader.DumpScan

namespace SchemaMap
namespace MySql

namespace Scan

/-! ### Notes are kept -/

theorem notes_note (s : Scan) (line : Nat) (message : String) :
    s.diagnostics <+: (s.note line message).diagnostics :=
  List.prefix_append _ _

theorem notes_close (s : Scan) : s.close.diagnostics = s.diagnostics := by
  unfold close
  split <;> rfl

theorem notes_openTable (s : Scan) (line : Nat) (name : String) :
    s.diagnostics <+: (s.openTable line name).diagnostics := by
  have noted (t : Scan) (b : Bool) (m : String) :
      t.diagnostics <+: (if b then t.note line m else t).diagnostics := by
    cases b
    · exact List.prefix_refl _
    · exact t.notes_note line m
  refine List.IsPrefix.trans ?_ (noted _ _ _)
  cases s.current with
  | none => exact List.prefix_refl _
  | some o => exact (notes_close _).symm ▸ s.notes_note line _

/-- A line adds notes and takes none back. -/
theorem notes_take (s : Scan) (line : Nat) (text : List Char) (k : DumpLine) :
    s.diagnostics <+: (s.take line text k).diagnostics := by
  cases k with
  | use schema => exact List.prefix_refl _
  | create qualifier name =>
    cases qualifier with
    | none => exact s.notes_openTable line name
    | some schema => exact notes_openTable { s with currentSchema := schema } line name
  | column name =>
    unfold take addColumn
    cases s.current <;> exact List.prefix_refl _
  | key => exact List.prefix_refl _
  | close =>
    unfold take
    simp only
    split
    · rw [notes_close]
    · exact s.notes_note _ _
  | silent => exact List.prefix_refl _
  | unknown =>
    unfold take
    simp only
    split
    · exact s.notes_note _ _
    · exact List.prefix_refl _

theorem notes_takeAll : ∀ (raws : List (List Char)) (s : Scan) (line : Nat),
    s.diagnostics <+: (s.takeAll line raws).diagnostics
  | [], _, _ => List.prefix_refl _
  | _ :: raws, s, line =>
    (s.notes_take line _ _).trans (notes_takeAll raws _ (line + 1))

theorem notes_finish (s : Scan) : s.diagnostics <+: s.finish.diagnostics := by
  have hend : s.diagnostics <+: s.endOfText.diagnostics := by
    unfold endOfText
    split
    · exact (notes_close _).symm ▸ s.notes_note _ _
    · exact List.prefix_refl _
  exact hend.trans (List.prefix_append _ _)

/-! ### The open table -/

/-- The schema and the name of the open table. -/
def openKey? (s : Scan) : Option (String × String) :=
  s.current.map fun o => o.table.key

theorem openKey_openTable (s : Scan) (line : Nat) (name : String) :
    (s.openTable line name).openKey? = some (s.currentSchema, name) := by
  rw [openKey?, (openTable_spec s line name).2.1]
  rfl

theorem openKey_take {s : Scan} {before : List DumpLine} (hs : s.currentSchema = schemaAfter before)
    (hopen : s.openKey? = openAfter? before) (line : Nat) (text : List Char) (k : DumpLine) :
    (s.take line text k).openKey? = openAfter? (before ++ [k]) := by
  rw [openAfter?_append]
  cases k with
  | use schema => exact hopen
  | create qualifier name =>
    cases qualifier with
    | none =>
      rw [take, openKey_openTable, hs]
      rfl
    | some schema =>
      rw [take, openKey_openTable]
      rfl
  | column name =>
    rw [← hopen, take, addColumn, openKey?, openKey?]
    cases hc : s.current <;> simp [hc, Declared.key]
  | key => exact hopen
  | close =>
    rw [take, close]
    cases hc : s.current <;> simp [openKey?, note, hc]
  | silent => exact hopen
  | unknown =>
    rw [← hopen, take]
    split <;> rfl

/-- **The table that a scan has open** is the one that the lines it has taken tell. -/
theorem openKey_takeAll : ∀ (raws : List (List Char)) (before : List DumpLine) {s : Scan}
    (_ : s.currentSchema = schemaAfter before) (_ : s.openKey? = openAfter? before) (line : Nat),
    (s.takeAll line raws).openKey? =
      openAfter? (before ++ raws.map fun l => DumpLine.ofText (Text.trim l))
  | [], before, _, _, hopen, _ => by rw [takeAll, hopen, List.map_nil, List.append_nil]
  | raw :: raws, before, s, hs, hopen, line => by
    have hschema := take_schemaAfter hs line (Text.trim raw) (DumpLine.ofText (Text.trim raw))
    have hnext := openKey_take hs hopen line (Text.trim raw) (DumpLine.ofText (Text.trim raw))
    have ih := openKey_takeAll raws _ hschema hnext (line + 1)
    rw [takeAll, ih, List.map_cons, List.append_assoc, List.singleton_append]

theorem takeAll_append : ∀ (raws more : List (List Char)) (s : Scan) (line : Nat),
    s.takeAll line (raws ++ more) = (s.takeAll line raws).takeAll (line + raws.length) more
  | [], _, _, _ => rfl
  | raw :: raws, more, s, line => by
    rw [List.cons_append, takeAll, takeAll, takeAll_append raws, List.length_cons,
      Nat.add_right_comm, Nat.add_assoc]

end Scan

/-! ### The scan before a line -/

/-- The scan of a dump before the line at the place `i`. -/
def scanBefore (cs : List Char) (i : Nat) : Scan :=
  ({} : Scan).takeAll 1 ((Text.lines cs).take i)

theorem openKey_scanBefore (cs : List Char) (i : Nat) :
    (scanBefore cs i).openKey? = openAfter? ((kinds cs).take i) := by
  rw [scanBefore, Scan.openKey_takeAll _ [] rfl rfl, List.nil_append, List.map_take]
  rfl

section Line

variable {cs raw : List Char} {i : Nat}

theorem scanBefore_succ (hline : (Text.lines cs)[i]? = some raw) :
    scanBefore cs (i + 1) =
      (scanBefore cs i).take (i + 1) (Text.trim raw) (DumpLine.ofText (Text.trim raw)) := by
  obtain ⟨hi, -⟩ := List.getElem?_eq_some_iff.1 hline
  rw [scanBefore, List.take_add_one, hline, Option.toList_some, Scan.takeAll_append,
    List.length_take_of_le hi.le, Nat.add_comm 1 i]
  rfl

/-- The scan of a dump is the scan up to a line, and the lines from there on. -/
theorem read_eq_scanBefore (cs : List Char) {i : Nat} (hi : i ≤ (Text.lines cs).length) :
    read cs = ((scanBefore cs i).takeAll (i + 1) ((Text.lines cs).drop i)).finish := by
  have hall := Scan.takeAll_append ((Text.lines cs).take i) ((Text.lines cs).drop i) {} 1
  rw [List.take_append_drop, List.length_take_of_le hi, Nat.add_comm 1 i] at hall
  rw [read, hall]
  rfl

/-- A note that was taken before a line is in the end among the notes on the dump. -/
theorem note_kept {d : Diagnostic} (hi : i ≤ (Text.lines cs).length)
    (h : d ∈ (scanBefore cs i).diagnostics) : d ∈ (read cs).diagnostics := by
  rw [read_eq_scanBefore cs hi]
  exact (Scan.notes_finish _).subset ((Scan.notes_takeAll _ _ _).subset h)

/-! ### The note on a line -/

/-- The note on a line of a table, given by its place, that is of no known kind. -/
def unknownNote (i : Nat) (text : List Char) : Diagnostic :=
  Diagnostic.at (i + 1) ("unrecognized line inside table body skipped: " ++ String.ofList text)

/-- A scan has a table open just where the lines before tell one. -/
theorem exists_openAfter?_iff :
    (∃ key, openAfter? ((kinds cs).take i) = some key) ↔ (scanBefore cs i).current.isSome = true := by
  rw [← openKey_scanBefore, ← Option.isSome_iff_exists, Scan.openKey?, Option.isSome_map]

/-- **A line of a table that is of no known kind is noted.** -/
theorem note_of_unknown {key : String × String} (hline : (Text.lines cs)[i]? = some raw)
    (hunknown : DumpLine.ofText (Text.trim raw) = .unknown)
    (hopen : openAfter? ((kinds cs).take i) = some key) :
    unknownNote i (Text.trim raw) ∈ (read cs).diagnostics := by
  obtain ⟨hi, -⟩ := List.getElem?_eq_some_iff.1 hline
  refine note_kept hi ?_
  rw [scanBefore_succ hline, hunknown, Scan.take, if_pos (exists_openAfter?_iff.1 ⟨key, hopen⟩)]
  exact List.mem_append_right _ List.mem_cons_self

end Line

end MySql
end SchemaMap
