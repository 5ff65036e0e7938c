/-
# Tables, requests, options and outcomes read back from their texts

Every record that is written in JSON leaves out what is missing or empty, and has a field with the
value that stands for it when it is read. So each of them is read as it was written, as far as its
numbers have 64 bits, as those have that are read.

Key definitions: `Diagnostic.InRange`, `Extraction.InRange`, `Options.InRange`, `Outcome.InRange`.
Key theorems: `Json.Codec.records_read_back`.
-/
import SchemaMap.Request.Codec
import SchemaMap.Run.Codec
import SchemaMap.Proofs.Json.Codec

namespace SchemaMap

open Json (Codec Shape Value Filled Traced optionalMember)
open Json.Codec (lossless_record lossless_words)

/-! ### Members of a record -/

namespace Json

theorem Filled.text {k : String} {default : Option Value} {t : String}
    {fields : List (String × Shape × Option Value)} {ms ws : List (String × Value)}
    (h : Filled fields ms ws) :
    Filled ((k, .anyText, default) :: fields) ((k, .string t) :: ms) ((k, .string t) :: ws) :=
  .member (reads_anyText t) h

theorem Filled.optionalText {k expected refused : String} {t : Option String}
    {fields : List (String × Shape × Option Value)} {ms ws : List (String × Value)}
    (h : Filled fields ms ws) :
    Filled ((k, .optional (.text expected (fun _ => true) refused), some .null) :: fields)
      (optionalMember k (t.map .string) ++ ms) ((k, (t.map Value.string).getD .null) :: ws) := by
  refine .optional (fun ht => by rw [ht]; rfl) (fun v hv => ?_) h
  obtain ⟨s, rfl, rfl⟩ := Option.map_eq_some_iff.1 hv
  exact reads_optional (by simp) (reads_text rfl)

theorem Filled.optionalCount {k : String} {n : Option Nat}
    {fields : List (String × Shape × Option Value)} {ms ws : List (String × Value)}
    (h : Filled fields ms ws) :
    Filled ((k, .optional .count, some .null) :: fields)
      (optionalMember k (n.map .whole) ++ ms) ((k, (n.map Value.whole).getD .null) :: ws) := by
  refine .optional (fun hn => by rw [hn]; rfl) (fun v hv => ?_) h
  obtain ⟨m, rfl, rfl⟩ := Option.map_eq_some_iff.1 hv
  exact reads_optional (by simp) (reads_count m)

theorem optionalText?_eq {v : Value} {k : String} {t : Option String}
    (h : v.get? k = some ((t.map Value.string).getD .null)) : v.optionalText? k = some t := by
  unfold Value.optionalText?
  rw [h]
  cases t <;> rfl

theorem optionalCount?_eq {v : Value} {k : String} {n : Option Nat}
    (h : v.get? k = some ((n.map Value.whole).getD .null)) : v.optionalCount? k = some n := by
  unfold Value.optionalCount?
  rw [h]
  cases n <;> rfl

theorem exact_optionalMember {k : String} {o : Option Value} (h : ∀ v ∈ o, v.Exact) :
    ∀ m ∈ optionalMember k o, m.2.Exact := by
  cases o with
  | none => exact fun m hm => absurd hm List.not_mem_nil
  | some v =>
    intro m hm
    obtain rfl := List.mem_singleton.1 hm
    exact h v rfl

theorem exact_optionalText (k : String) (t : Option String) :
    ∀ m ∈ optionalMember k (t.map .string), m.2.Exact := by
  refine exact_optionalMember fun v hv => ?_
  obtain ⟨s, -, rfl⟩ := Option.map_eq_some_iff.1 hv
  exact .string s

theorem exact_optionalCount {k : String} {n : Option Nat} (h : ∀ m ∈ n, m ≤ Numeral.maxWhole) :
    ∀ m ∈ optionalMember k (n.map .whole), m.2.Exact := by
  refine exact_optionalMember fun v hv => ?_
  obtain ⟨m, hm, rfl⟩ := Option.map_eq_some_iff.1 hv
  exact .whole (h m hm)

end Json

open Json in
theorem Column.codec_lossless : Column.codec.Lossless fun _ => True := by
  refine lossless_record (fun c =>
      ("name", .string c.name) :: (optionalMember "type_name" (c.typeName.map .string) ++ []))
    rfl (by decide) (fun c => by rw [List.append_nil]; rfl) (fun c _ => ?_) (fun c _ => ?_)
    (fun _ _ _ _ _ => trivial)
  · rw [List.append_nil]
    exact List.forall_mem_cons.2 ⟨.string _, exact_optionalText _ _⟩
  · refine ⟨_, .text (.optionalText .nil), ?_⟩
    have htype := optionalText?_eq (v := .object [("name", .string c.name),
      ("type_name", (c.typeName.map Value.string).getD .null)]) (k := "type_name") rfl
    simp only [codec, htype]
    rfl

open Json in
theorem Table.codec_lossless : Table.codec.Lossless fun _ => True := by
  refine lossless_record (fun t =>
      [("schema", .string t.schema), ("name", .string t.name),
        ("columns", Column.codec.list.encode t.columns)])
    rfl (by decide) (fun t => rfl) (fun t _ => ?_) (fun t _ => ?_) (fun _ _ _ _ _ => trivial)
  · have hcolumns := Column.codec_lossless.list.exact (x := t.columns) fun _ _ => trivial
    simp only [List.forall_mem_cons]
    exact ⟨.string _, .string _, hcolumns, fun _ h => absurd h List.not_mem_nil⟩
  · obtain ⟨w, hw, hdecode⟩ := Column.codec_lossless.list.reads (x := t.columns) fun _ _ => trivial
    refine ⟨_, .text (.text (.member hw .nil)), ?_⟩
    have hmember : Column.codec.member? "columns" (.object [("schema", .string t.schema),
        ("name", .string t.name), ("columns", w)]) = some t.columns := hdecode
    simp only [codec, hmember]
    rfl

theorem Transformer.codec_lossless : Transformer.codec.Lossless fun _ => True :=
  lossless_words (fun t => by cases t; decide) (fun t u _ => by cases t; cases u; rfl)

open Json in
theorem JobMapping.codec_lossless : JobMapping.codec.Lossless fun _ => True := by
  refine lossless_record (fun m =>
      [("schema", .string m.schema), ("table", .string m.table), ("column", .string m.column),
        ("transformer", Transformer.codec.encode m.transformer)])
    rfl (by decide) (fun m => rfl) (fun m _ => ?_) (fun m _ => ?_) (fun _ _ _ _ _ => trivial)
  · simp only [List.forall_mem_cons]
    exact ⟨.string _, .string _, .string _, .string _, fun _ h => absurd h List.not_mem_nil⟩
  · obtain ⟨w, hw, hdecode⟩ := Transformer.codec_lossless.reads (x := m.transformer) trivial
    refine ⟨_, .text (.text (.text (.member hw .nil))), ?_⟩
    have hmember : (Value.get? "transformer" (.object [("schema", .string m.schema),
        ("table", .string m.table), ("column", .string m.column), ("transformer", w)])).bind
          Transformer.codec.decode? = some m.transformer := hdecode
    simp only [codec, hmember]
    rfl

open Json in
theorem Request.codec_lossless : Request.codec.Lossless fun _ => True := by
  refine lossless_record (fun r =>
      [("folder", .string r.folder), ("sql_file", .string r.sqlFile),
        ("driver", .string r.driver)])
    rfl (by decide) (fun r => rfl) (fun r _ => ?_) (fun r _ => ?_) (fun _ _ _ _ _ => trivial)
  · simp only [List.forall_mem_cons]
    exact ⟨.string _, .string _, .string _, fun _ h => absurd h List.not_mem_nil⟩
  · exact ⟨_, .text (.text (.text .nil)), rfl⟩

/-! ### Records with numbers -/

namespace Json

variable {n : Nat} {k : String} {fields : List (String × Shape × Option Value)}
  {ws : List (String × Value)}

/-- A field that was read, where its name is the name of one field only. -/
theorem Traced.read {w : Value} {shape : Shape} {default : Option Value}
    (hn : (fields.map (·.1)).Nodup) (hf : (k, shape, default) ∈ fields)
    (hws : ∀ x ∈ ws, Traced (Shape.readNode n) fields x) (h : ws.lookup k = some w) :
    default = some w ∨ ∃ node, shape.readNode n node = .ok w := by
  obtain ⟨s, d, hmem, hx⟩ := hws _ (mem_of_lookup h)
  have hsame : some (s, d) = some (shape, default) := by
    rw [← lookup_of_mem_nodup hn hmem, lookup_of_mem_nodup hn hf]
  cases hsame
  exact hx

theorem count?_le {m : Nat} (hn : (fields.map (·.1)).Nodup) (hf : (k, .count, none) ∈ fields)
    (hws : ∀ x ∈ ws, Traced (Shape.readNode n) fields x)
    (h : (Value.object ws).count? k = some m) : m ≤ Numeral.maxWhole := by
  unfold Value.count? at h
  split at h
  · rename_i i hi
    cases h
    obtain hd | ⟨node, hnode⟩ := Traced.read hn hf hws hi
    · cases hd
    · exact count_le hnode
  · cases h

theorem optionalCount?_le {o : Option Nat} (hn : (fields.map (·.1)).Nodup)
    (hf : (k, .optional .count, some .null) ∈ fields)
    (hws : ∀ x ∈ ws, Traced (Shape.readNode n) fields x)
    (h : (Value.object ws).optionalCount? k = some o) : ∀ m ∈ o, m ≤ Numeral.maxWhole := by
  unfold Value.optionalCount? at h
  split at h
  · cases h
    exact fun m hm => nomatch hm
  · cases h
    exact fun m hm => nomatch hm
  · rename_i i hi
    cases h
    intro m hm
    cases hm
    obtain hd | ⟨node, hnode⟩ := Traced.read hn hf hws hi
    · cases hd
    · rcases optional_traced hnode with he | ⟨l, hl⟩
      · cases he
      · exact count_le hl
  · cases h

/-- A member for a list that is left out where the list is empty. -/
theorem Codec.Lossless.exists_listMember {α : Type} {c : Codec α} {fits : α → Prop}
    (h : c.Lossless fits) {xs : List α} (hxs : ∀ x ∈ xs, fits x) :
    ∃ w, ((if xs.isEmpty then none else some (c.list.encode xs)) = none → w = .array []) ∧
      (∀ v ∈ (if xs.isEmpty then none else some (c.list.encode xs)), c.list.shape.Reads v w) ∧
      c.list.decode? w = some xs := by
  cases xs with
  | nil => exact ⟨.array [], fun _ => rfl, by simp, rfl⟩
  | cons x xs =>
    obtain ⟨w, hw, hdecode⟩ := h.list.reads hxs
    refine ⟨w, by simp, fun v hv => ?_, hdecode⟩
    cases hv
    exact hw

/-- The items of a member that was read fit, also where the member may be missing. -/
theorem Codec.Lossless.member?_fits {α : Type} {c : Codec α} {fits : α → Prop}
    (h : c.Lossless fits) {default : Option Value} {xs : List α}
    (hn : (fields.map (·.1)).Nodup) (hf : (k, c.list.shape, default) ∈ fields)
    (hdefault : default = none ∨ default = some (.array []))
    (hws : ∀ x ∈ ws, Traced (Shape.readNode n) fields x)
    (hread : c.member? k (.object ws) = some xs) : ∀ x ∈ xs, fits x := by
  obtain ⟨w, hw, hdecode⟩ := Option.bind_eq_some_iff.1 hread
  obtain hd | ⟨node, hnode⟩ := Traced.read hn hf hws hw
  · obtain rfl : w = .array [] := by
      rcases hdefault with he | he
      · cases he.symm.trans hd
      · exact (Option.some.inj (he.symm.trans hd)).symm
    cases hdecode
    exact fun x hx => absurd hx List.not_mem_nil
  · exact h.list.fits_of_decoded hnode hdecode

end Json

/-- A note on a line whose number has 64 bits. -/
def Diagnostic.InRange (d : Diagnostic) : Prop :=
  ∀ n ∈ d.line, n ≤ Json.Numeral.maxWhole

open Json in
theorem Diagnostic.codec_lossless : Diagnostic.codec.Lossless Diagnostic.InRange := by
  refine lossless_record (fun d =>
      optionalMember "line" (d.line.map .whole) ++ [("message", .string d.message)])
    rfl (by decide) (fun d => rfl) (fun d hd => ?_) (fun d _ => ?_) (fun n ws d hws hdecode => ?_)
  · intro m hm
    rcases List.mem_append.1 hm with hm | hm
    · exact exact_optionalCount hd m hm
    · obtain rfl := List.mem_singleton.1 hm
      exact .string _
  · refine ⟨_, .optionalCount (.text .nil), ?_⟩
    have hline := optionalCount?_eq (v := .object [("line", (d.line.map Value.whole).getD .null),
      ("message", .string d.message)]) (k := "line") rfl
    simp only [codec, hline]
    rfl
  · obtain ⟨line, hline, hdecode⟩ := Option.bind_eq_some_iff.1 hdecode
    obtain ⟨message, -, hdecode⟩ := Option.bind_eq_some_iff.1 hdecode
    cases hdecode
    exact optionalCount?_le (by decide) List.mem_cons_self hws hline

/-- What a script declares, with notes on lines whose numbers have 64 bits. -/
def Extraction.InRange (x : Extraction) : Prop :=
  ∀ d ∈ x.diagnostics, d.InRange

open Json in
theorem Extraction.codec_lossless : Extraction.codec.Lossless Extraction.InRange := by
  refine lossless_record (fun x =>
      [("tables", Table.codec.list.encode x.tables),
        ("diagnostics", Diagnostic.codec.list.encode x.diagnostics)])
    rfl (by decide) (fun x => rfl) (fun x hx => ?_) (fun x hx => ?_) (fun n ws x hws hdecode => ?_)
  · have htables := Table.codec_lossless.list.exact (x := x.tables) fun _ _ => trivial
    have hnotes := Diagnostic.codec_lossless.list.exact hx
    simp only [List.forall_mem_cons]
    exact ⟨htables, hnotes, fun _ h => absurd h List.not_mem_nil⟩
  · obtain ⟨t, ht, hdecodeT⟩ := Table.codec_lossless.list.reads (x := x.tables) fun _ _ => trivial
    obtain ⟨d, hd, hdecodeD⟩ := Diagnostic.codec_lossless.list.reads hx
    refine ⟨_, .member ht (.member hd .nil), ?_⟩
    have htables : Table.codec.member? "tables" (.object [("tables", t), ("diagnostics", d)])
        = some x.tables := hdecodeT
    have hnotes : Diagnostic.codec.member? "diagnostics"
        (.object [("tables", t), ("diagnostics", d)]) = some x.diagnostics := hdecodeD
    simp only [codec, htables, hnotes]
    rfl
  · obtain ⟨tables, -, hdecode⟩ := Option.bind_eq_some_iff.1 hdecode
    obtain ⟨notes, hnotes, hdecode⟩ := Option.bind_eq_some_iff.1 hdecode
    cases hdecode
    exact Diagnostic.codec_lossless.member?_fits (by decide)
      (List.mem_cons_of_mem _ List.mem_cons_self) (.inl rfl) hws hnotes

/-- Options with a number of workers that has 64 bits, where it is set. -/
def Options.InRange (o : Options) : Prop :=
  ∀ n ∈ o.workers, n ≤ Json.Numeral.maxWhole

open Json in
theorem Options.codec_lossless : Options.codec.Lossless Options.InRange := by
  refine lossless_record (fun o =>
      ("tool_package", .string o.tool) :: (optionalMember "workers" (o.workers.map .whole)
        ++ [("strict_drivers", .bool o.strictDrivers), ("dry_run", .bool o.dryRun),
          ("output_file_name", .string o.outputFileName),
          ("mappings_import", .string o.mappingsImport)]))
    rfl (by decide) (fun o => rfl) (fun o ho => ?_) (fun o _ => ?_) (fun n ws o hws hdecode => ?_)
  · simp only [List.forall_mem_cons, List.forall_mem_append]
    exact ⟨.string _, exact_optionalCount ho, .bool _, .bool _, .string _, .string _,
      fun _ h => absurd h List.not_mem_nil⟩
  · refine ⟨_, .text (.optionalCount (.member (reads_flag _) (.member (reads_flag _)
      (.text (.text .nil))))), ?_⟩
    have hworkers := optionalCount?_eq (v := .object [("tool_package", .string o.tool),
      ("workers", (o.workers.map Value.whole).getD .null),
      ("strict_drivers", .bool o.strictDrivers), ("dry_run", .bool o.dryRun),
      ("output_file_name", .string o.outputFileName),
      ("mappings_import", .string o.mappingsImport)]) (k := "workers") rfl
    simp only [codec, hworkers]
    rfl
  · obtain ⟨tool, -, hdecode⟩ := Option.bind_eq_some_iff.1 hdecode
    obtain ⟨workers, hworkers, hdecode⟩ := Option.bind_eq_some_iff.1 hdecode
    obtain ⟨strict, -, hdecode⟩ := Option.bind_eq_some_iff.1 hdecode
    obtain ⟨dry, -, hdecode⟩ := Option.bind_eq_some_iff.1 hdecode
    obtain ⟨file, -, hdecode⟩ := Option.bind_eq_some_iff.1 hdecode
    obtain ⟨path, -, hdecode⟩ := Option.bind_eq_some_iff.1 hdecode
    cases hdecode
    exact optionalCount?_le (by decide) (List.mem_cons_of_mem _ List.mem_cons_self) hws hworkers

theorem Status.codec_lossless : Status.codec.Lossless fun _ => True :=
  lossless_words (fun s => by cases s <;> decide)
    (fun s t h => by cases s <;> cases t <;> first | rfl | exact absurd h (by decide))

/-- An outcome whose numbers have 64 bits. -/
structure Outcome.InRange (o : Outcome) : Prop where
  tables : o.tables ≤ Json.Numeral.maxWhole
  mappings : o.mappings ≤ Json.Numeral.maxWhole
  diagnostics : ∀ d ∈ o.diagnostics, d.InRange

/-- The members of an outcome that are always written. -/
theorem Outcome.encode_eq (o : Outcome) : Outcome.codec.encode o = .object
    (("folder", .string o.folder) :: ("sql_file", .string o.sqlFile) :: ("driver", .string o.driver)
      :: ("status", Status.codec.encode o.status)
      :: (optionalMember "output_path" (o.outputPath.map .string)
        ++ ("tables", .whole o.tables) :: ("mappings", .whole o.mappings)
        :: (optionalMember "diagnostics" (if o.diagnostics.isEmpty then none
              else some (Diagnostic.codec.list.encode o.diagnostics))
          ++ (optionalMember "error" (o.error.map .string) ++ [])))) := by
  simp [Outcome.codec]

/-- The notes of an outcome that is read; a member that is missing stands for none. -/
def Outcome.notes? (v : Value) : Option (List Diagnostic) :=
  match v.get? "diagnostics" with
  | none => some []
  | some d => Diagnostic.codec.list.decode? d

theorem Outcome.decode?_eq (v : Value) : Outcome.codec.decode? v =
    (Outcome.notes? v).bind fun diagnostics => do
      return ⟨← v.text? "folder", ← v.text? "sql_file", ← v.text? "driver",
        ← (v.get? "status").bind Status.codec.decode?, ← v.optionalText? "output_path",
        ← v.count? "tables", ← v.count? "mappings", diagnostics, ← v.optionalText? "error"⟩ := by
  unfold Outcome.notes?
  cases h : v.get? "diagnostics" <;> simp [Outcome.codec, h]

open Json in
theorem Outcome.codec_lossless : Outcome.codec.Lossless Outcome.InRange := by
  refine lossless_record _ rfl (by decide) Outcome.encode_eq (fun o ho => ?_) (fun o ho => ?_)
    (fun n ws o hws hdecode => ?_)
  · have hnotes : ∀ v ∈ (if o.diagnostics.isEmpty then none
        else some (Diagnostic.codec.list.encode o.diagnostics)), v.Exact := by
      intro v hv
      split at hv
      · cases hv
      · cases hv
        exact Diagnostic.codec_lossless.list.exact ho.diagnostics
    simp only [List.forall_mem_cons, List.forall_mem_append]
    exact ⟨.string _, .string _, .string _, Status.codec_lossless.exact trivial,
      exact_optionalText _ _, .whole ho.tables, .whole ho.mappings, exact_optionalMember hnotes,
      exact_optionalText _ _, fun _ h => absurd h List.not_mem_nil⟩
  · obtain ⟨s, hs, hstatus⟩ := Status.codec_lossless.reads (x := o.status) trivial
    obtain ⟨d, hempty, hfull, hnotes⟩ := Diagnostic.codec_lossless.exists_listMember ho.diagnostics
    refine ⟨_, .text (.text (.text (.member hs (.optionalText (.member (reads_count _)
      (.member (reads_count _) (.optional hempty hfull (.optionalText .nil)))))))), ?_⟩
    generalize hv : Value.object _ = v
    have hd : Outcome.notes? v = some o.diagnostics := by
      rw [← hv]
      exact hnotes
    have hword : (v.get? "status").bind Status.codec.decode? = some o.status := by
      rw [← hv]
      exact hstatus
    have hpath : v.optionalText? "output_path" = some o.outputPath := by
      rw [← hv]
      exact optionalText?_eq rfl
    have herror : v.optionalText? "error" = some o.error := by
      rw [← hv]
      exact optionalText?_eq rfl
    rw [Outcome.decode?_eq, hd, hword, hpath, herror, ← hv]
    rfl
  · rw [Outcome.decode?_eq] at hdecode
    obtain ⟨notes, hnotes, hdecode⟩ := Option.bind_eq_some_iff.1 hdecode
    obtain ⟨folder, -, hdecode⟩ := Option.bind_eq_some_iff.1 hdecode
    obtain ⟨file, -, hdecode⟩ := Option.bind_eq_some_iff.1 hdecode
    obtain ⟨driver, -, hdecode⟩ := Option.bind_eq_some_iff.1 hdecode
    obtain ⟨status, -, hdecode⟩ := Option.bind_eq_some_iff.1 hdecode
    obtain ⟨path, -, hdecode⟩ := Option.bind_eq_some_iff.1 hdecode
    obtain ⟨tables, htables, hdecode⟩ := Option.bind_eq_some_iff.1 hdecode
    obtain ⟨mappings, hmappings, hdecode⟩ := Option.bind_eq_some_iff.1 hdecode
    obtain ⟨error, -, hdecode⟩ := Option.bind_eq_some_iff.1 hdecode
    cases hdecode
    refine ⟨?_, ?_, ?_⟩
    · exact count?_le (by decide) (by simp) hws htables
    · exact count?_le (by decide) (by simp) hws hmappings
    · unfold Outcome.notes? at hnotes
      split at hnotes
      · cases hnotes
        exact fun d hd => absurd hd List.not_mem_nil
      · rename_i w hw
        have hmember : Diagnostic.codec.member? "diagnostics" (.object ws) = some notes := by
          rw [Codec.member?, hw]
          exact hnotes
        exact Diagnostic.codec_lossless.member?_fits (by decide) (by simp) (.inr rfl) hws hmember

/-! ### All records -/

namespace Json.Codec

/-- **Every record reads back from its text**, and so does one that was read from any text: columns,
tables, mappings, notes, what a script declares, requests and lists of them, options and
outcomes. -/
theorem records_read_back :
    Column.codec.ReadsBack (fun _ => True) ∧ Table.codec.ReadsBack (fun _ => True) ∧
    JobMapping.codec.ReadsBack (fun _ => True) ∧ Diagnostic.codec.ReadsBack Diagnostic.InRange ∧
    Extraction.codec.ReadsBack Extraction.InRange ∧ Request.codec.ReadsBack (fun _ => True) ∧
    Request.codec.list.ReadsBack (fun _ => True) ∧ Options.codec.ReadsBack Options.InRange ∧
    Outcome.codec.ReadsBack Outcome.InRange := by
  have hrequests : Request.codec.list.ReadsBack fun _ => True :=
    ⟨fun rs _ => Request.codec_lossless.list.read_write fun _ _ => trivial,
      fun _ _ h => Request.codec_lossless.list.read_write_of_read h⟩
  exact ⟨Column.codec_lossless.readsBack, Table.codec_lossless.readsBack,
    JobMapping.codec_lossless.readsBack, Diagnostic.codec_lossless.readsBack,
    Extraction.codec_lossless.readsBack, Request.codec_lossless.readsBack, hrequests,
    Options.codec_lossless.readsBack, Outcome.codec_lossless.readsBack⟩

/-- An outcome with all its members, and texts with a quotation mark, a line break, a backslash
and a character outside of ASCII. -/
theorem records_read_back_failed :
    Outcome.codec.read (Outcome.codec.write ⟨"a\"b", "\n", "mysql", .failed, some "x\\y", 2, 5,
      [⟨none, "é"⟩, ⟨some 7, "\t"⟩], some ""⟩) =
      .ok ⟨"a\"b", "\n", "mysql", .failed, some "x\\y", 2, 5,
        [⟨none, "é"⟩, ⟨some 7, "\t"⟩], some ""⟩ :=
  records_read_back.2.2.2.2.2.2.2.2.of_value _
    ⟨by decide, by decide, by simp [Diagnostic.InRange, Json.Numeral.maxWhole]⟩

end Json.Codec

end SchemaMap
