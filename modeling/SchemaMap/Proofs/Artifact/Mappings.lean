/-
# The mappings of a generated file read back

`Artifact.render` writes a file line by line and `Artifact.readMappings` looks for mappings at
the starts of lines. Every line that does not belong to a mapping starts with a character that
no mapping starts with (`Holds`), and nothing that is written into a line ends it: quoted texts
and package names hold no line feed, and line feeds of the source file become blanks. So the
reader meets the mappings of the file and nothing else, and it takes each of them as a whole
(`mappingAt?_fieldsText`).

Key definitions: `Artifact.entryOf`, `Artifact.Reads`, `Artifact.Holds`.
Key theorems: `Artifact.holds_text`, `Artifact.readMappings_of_render`.
-/
import SchemaMap.Artifact.ReadBack
import SchemaMap.Proofs.Artifact.Quoting
import SchemaMap.Proofs.Text.Pattern

namespace SchemaMap
namespace Artifact

open Text

/-! ### One mapping -/

/-- The entry that stands in a file for a mapping. -/
def entryOf (m : JobMapping) : Entry :=
  ⟨quotedBody m.schema.toList, quotedBody m.table.toList, quotedBody m.column.toList,
    m.transformer.constant.toList⟩

theorem skipBlanks_quoted (cs rest : List Char) :
    skipBlanks (quoted cs ++ rest) = quoted cs ++ rest := by
  rw [quoted_eq, List.cons_append, skipBlanks_of_head (by decide)]

theorem labelled?_quoted (label : String) (gap : List Char) (h : ∀ c ∈ gap, isBlank c = true)
    (cs rest : List Char) :
    labelled? label (label.toList ++ (gap ++ (quoted cs ++ ',' :: rest))) =
      some (quotedBody cs, rest) := by
  simp only [labelled?, after?_append, skipBlanks_append h, skipBlanks_quoted, literal?_quoted,
    Option.bind_eq_bind, Option.bind_some]
  rfl

/-- The fields of a mapping up to the comma behind its constant, in front of `rest`. -/
def fieldsText (m : JobMapping) (rest : List Char) : List Char :=
  "\t\t\tSchema: ".toList ++ (quoted m.schema.toList ++ ',' :: '\n'
    :: ("\t\t\tTable:  ".toList ++ (quoted m.table.toList ++ ',' :: '\n'
    :: ("\t\t\tColumn: ".toList ++ (quoted m.column.toList ++ ',' :: '\n'
    :: ("\t\t\tTransformer: &mgmtv1alpha1.JobMappingTransformer\x7b".toList ++ '\n'
    :: ("\t\t\t\tSource: mgmtv1alpha1.TransformerSource_".toList
      ++ (m.transformer.constant.toList ++ ',' :: rest))))))))

theorem length_lt_fieldsText (m : JobMapping) (rest : List Char) :
    rest.length < (fieldsText m rest).length := by
  unfold fieldsText
  generalize "\t\t\tSchema: ".toList = a, "\t\t\tTable:  ".toList = b,
    "\t\t\tColumn: ".toList = c,
    "\t\t\tTransformer: &mgmtv1alpha1.JobMappingTransformer\x7b".toList = d,
    "\t\t\t\tSource: mgmtv1alpha1.TransformerSource_".toList = e
  simp only [List.length_append, List.length_cons]
  omega

theorem fixedLine_append (s : String) (rest : List Char) :
    fixedLine s ++ rest = s.toList ++ '\n' :: rest := by
  simp [fixedLine]

theorem line_append (label value rest : List Char) :
    line [label, value, [',']] ++ rest = label ++ (value ++ ',' :: '\n' :: rest) := by
  simp [line]

theorem mappingText_append (m : JobMapping) (rest : List Char) :
    mappingText m ++ rest =
      "\t\t\x7b".toList ++ '\n' :: fieldsText m ('\n' :: ("\t\t\t\x7d,".toList ++ '\n'
        :: ("\t\t\x7d,".toList ++ '\n' :: rest))) := by
  unfold mappingText
  rw [List.append_assoc, List.append_assoc, List.append_assoc, List.append_assoc,
    List.append_assoc, List.append_assoc, List.append_assoc, fixedLine_append, line_append,
    line_append, line_append, fixedLine_append, line_append, fixedLine_append, fixedLine_append]
  rfl

/-- The fields of a mapping are read as its entry, up to their last comma. -/
theorem mappingAt?_fieldsText (m : JobMapping) (rest : List Char) :
    mappingAt? (fieldsText m rest) = some (entryOf m, rest) := by
  -- what the reader does with each label; the labels are fixed, so these compute
  have schema (r : List Char) :
      skipBlanks ("\t\t\tSchema: ".toList ++ r) = "Schema:".toList ++ ([' '] ++ r) := rfl
  have table (r : List Char) :
      lineBreak? ('\n' :: ("\t\t\tTable:  ".toList ++ r)) =
        some ("Table:".toList ++ ([' ', ' '] ++ r)) := rfl
  have column (r : List Char) :
      lineBreak? ('\n' :: ("\t\t\tColumn: ".toList ++ r)) =
        some ("Column:".toList ++ ([' '] ++ r)) := rfl
  have transformer (r : List Char) :
      lineBreak? ('\n' :: ("\t\t\tTransformer: &mgmtv1alpha1.JobMappingTransformer\x7b".toList
          ++ r)) =
        some ("Transformer:".toList
          ++ (" &mgmtv1alpha1.JobMappingTransformer\x7b".toList ++ r)) := rfl
  have reference (r : List Char) :
      char? '&' (skipBlanks (" &mgmtv1alpha1.JobMappingTransformer\x7b".toList ++ r)) =
        some ("mgmtv1alpha1.JobMappingTransformer\x7b".toList ++ r) := rfl
  have typeName (r : List Char) :
      wordThen? ".JobMappingTransformer\x7b"
        ("mgmtv1alpha1.JobMappingTransformer\x7b".toList ++ r) = some r := rfl
  have source (r : List Char) :
      lineBreak? ('\n' :: ("\t\t\t\tSource: mgmtv1alpha1.TransformerSource_".toList ++ r)) =
        some ("Source:".toList ++ (" mgmtv1alpha1.TransformerSource_".toList ++ r)) := rfl
  have enumName (r : List Char) :
      wordThen? ".TransformerSource_"
        (skipBlanks (" mgmtv1alpha1.TransformerSource_".toList ++ r)) = some r := rfl
  have constant (t : Transformer) (r : List Char) :
      wordRun? (t.constant.toList ++ ',' :: r) = some (t.constant.toList, ',' :: r) := by
    cases t; rfl
  have blank : ∀ c ∈ [' '], isBlank c = true := forall_mem_of_all (by decide)
  have blanks : ∀ c ∈ [' ', ' '], isBlank c = true := forall_mem_of_all (by decide)
  have some_bind {α β : Type} (a : α) (f : α → Option β) : (some a >>= f) = f a := rfl
  unfold mappingAt? fieldsText
  rw [schema, labelled?_quoted _ _ blank, some_bind]
  dsimp only
  rw [table, some_bind, labelled?_quoted _ _ blanks, some_bind]
  dsimp only
  rw [column, some_bind, labelled?_quoted _ _ blank, some_bind]
  dsimp only
  rw [transformer, some_bind, after?_append, some_bind, reference, some_bind, typeName, some_bind,
    source, some_bind, after?_append, some_bind, enumName, some_bind, constant, some_bind]
  rfl

theorem mappingAt?_blank {c : Char} (h : isBlank c = true) (cs : List Char) :
    mappingAt? (c :: cs) = mappingAt? cs := by
  unfold mappingAt?
  rw [skipBlanks_blank h]

/-! ### From line to line -/

/-- The entries of the text `cs`, which starts a line or not, are `es`, for a reader with fuel
for every character. -/
def Reads (atStart : Bool) (cs : List Char) (es : List Entry) : Prop :=
  ∀ fuel, cs.length < fuel → entriesFrom fuel atStart cs = es

theorem Reads.nil (atStart : Bool) : Reads atStart [] [] := by
  intro fuel h
  cases fuel with
  | zero => omega
  | succ fuel => cases atStart <;> rfl

/-- The rest of a line holds no entry: entries start where lines start. -/
theorem Reads.restOfLine : ∀ {l cs : List Char} {es : List Entry}, '\n' ∉ l →
    Reads true cs es → Reads false (l ++ '\n' :: cs) es
  | [], cs, es, _, h => by
    intro fuel hf
    cases fuel with
    | zero => omega
    | succ fuel =>
      simp only [List.nil_append, List.length_cons] at hf ⊢
      exact h fuel (by omega)
  | c :: l, cs, es, hl, h => by
    simp only [List.mem_cons, not_or] at hl
    intro fuel hf
    cases fuel with
    | zero => omega
    | succ fuel =>
      simp only [List.cons_append, List.length_cons] at hf ⊢
      have hc : (c == '\n') = false := beq_false_of_ne fun h => hl.1 h.symm
      simp only [entriesFrom, hc, Bool.false_eq_true, if_false]
      exact Reads.restOfLine hl.2 h fuel (by omega)

/-- A line that no entry starts on is passed over. -/
theorem Reads.line {l cs : List Char} {es : List Entry} (hl : '\n' ∉ l)
    (hm : mappingAt? (l ++ '\n' :: cs) = none) (h : Reads true cs es) :
    Reads true (l ++ '\n' :: cs) es := by
  intro fuel hf
  have hr := Reads.restOfLine hl h fuel hf
  cases fuel with
  | zero => omega
  | succ fuel => simpa only [entriesFrom, hm, if_true, Bool.false_eq_true, if_false] using hr

/-- An entry at the start of a line is taken, and the reader goes on behind it. -/
theorem Reads.entry {cs rest : List Char} {e : Entry} {es : List Entry}
    (hm : mappingAt? cs = some (e, rest)) (hlt : rest.length < cs.length)
    (h : Reads false rest es) : Reads true cs (e :: es) := by
  intro fuel hf
  cases fuel with
  | zero => omega
  | succ fuel =>
    simp only [entriesFrom, hm, if_true]
    rw [h fuel (by omega)]

/-! ### Whole lines

The parts of a file are runs of whole lines, so what a part holds does not depend on what stands
before or behind it. Only an empty line lets the reader look at the line behind it. -/

/-- The whole lines `t` hold the entries `es`, in front of any other lines. -/
def Holds (t : List Char) (es : List Entry) : Prop :=
  ∀ cs es', Reads true cs es' → Reads true (t ++ cs) (es ++ es')

theorem Holds.append {t u : List Char} {es fs : List Entry} (ht : Holds t es)
    (hu : Holds u fs) : Holds (t ++ u) (es ++ fs) := by
  intro cs es' h
  rw [List.append_assoc, List.append_assoc]
  exact ht _ _ (hu _ _ h)

theorem Holds.flatMap {α : Type} {f : α → List Char} {g : α → List Entry}
    (h : ∀ a, Holds (f a) (g a)) : ∀ as : List α, Holds (as.flatMap f) (as.flatMap g)
  | [] => fun _ _ h => h
  | a :: as => by
    rw [List.flatMap_cons, List.flatMap_cons]
    exact (h a).append (Holds.flatMap h as)

/-- Lines without entries in front of others. -/
theorem Holds.behind {t u : List Char} {es : List Entry} (ht : Holds t [])
    (hu : Holds u es) : Holds (t ++ u) es :=
  ht.append hu

theorem Holds.flatMap_nil {α : Type} {f : α → List Char} (h : ∀ a, Holds (f a) [])
    (as : List α) : Holds (as.flatMap f) [] := by
  have hg : as.flatMap (fun _ => ([] : List Entry)) = [] := by
    simp
  have hf := Holds.flatMap h as
  rwa [hg] at hf

theorem holds_fixedLine {s : String} (hs : '\n' ∉ s.toList)
    (hm : ∀ r, mappingAt? (s.toList ++ r) = none) : Holds (fixedLine s) [] := by
  intro cs es h
  rw [fixedLine_append]
  exact Reads.line hs (hm _) h

theorem holds_line {parts : List (List Char)} (hs : '\n' ∉ parts.flatten)
    (hm : ∀ r, mappingAt? (parts.flatten ++ r) = none) : Holds (line parts) [] := by
  intro cs es h
  rw [line, List.append_assoc]
  exact Reads.line hs (hm _) h

/-- An empty line starts an entry only if the next line does. -/
theorem Holds.emptyLine {t : List Char} {es : List Entry}
    (hm : ∀ r, mappingAt? (t ++ r) = none) (ht : Holds t es) : Holds (fixedLine "" ++ t) es := by
  intro cs es' h
  have hm' : mappingAt? ([] ++ '\n' :: (t ++ cs)) = none := by
    rw [← hm cs]
    exact mappingAt?_blank (by decide) _
  exact Reads.line (by simp) hm' (ht cs es' h)

/-! ### The parts of a file -/

/-- A mapping is one entry. -/
theorem holds_mappingText (m : JobMapping) : Holds (mappingText m) [entryOf m] := by
  intro cs es h
  rw [mappingText_append]
  refine Reads.line (by decide) rfl (Reads.entry (mappingAt?_fieldsText m _) ?_ ?_)
  · exact length_lt_fieldsText m _
  · refine Reads.restOfLine (l := []) (by decide) ?_
    refine Reads.line (by decide) rfl ?_
    exact Reads.line (by decide) rfl h

theorem holds_mappingsText (ms : List JobMapping) :
    Holds (mappingsText ms) (ms.map entryOf) := by
  have hms : ms.map entryOf = ms.flatMap (fun m => [entryOf m]) ++ [] := by
    rw [List.append_nil, List.map_eq_flatMap]
  unfold mappingsText
  simp only [List.append_assoc]
  refine Holds.behind (holds_fixedLine (by decide) fun _ => rfl) ?_
  refine Holds.behind (holds_fixedLine (by decide) fun _ => rfl) ?_
  rw [hms]
  refine Holds.append (Holds.flatMap holds_mappingText ms) ?_
  refine Holds.behind (holds_fixedLine (by decide) fun _ => rfl) ?_
  exact holds_fixedLine (by decide) fun _ => rfl

theorem holds_typeLine (c : String × String) : Holds (typeLine c) [] := by
  refine holds_line ?_ fun _ => rfl
  simp [newline_notMem_quoted]

theorem holds_entryText (e : String × List (String × String)) : Holds (entryText e) [] := by
  unfold entryText
  simp only [List.append_assoc]
  refine Holds.behind (holds_line ?_ fun _ => rfl) ?_
  · simp [newline_notMem_quoted]
  refine Holds.behind (Holds.flatMap_nil holds_typeLine e.2) ?_
  exact holds_fixedLine (by decide) fun _ => rfl

/-- The type map holds no entry. -/
theorem holds_typeMapText (m : TypeMap) : Holds (typeMapText m) [] := by
  unfold typeMapText
  simp only [List.append_assoc]
  refine Holds.behind (holds_fixedLine (by decide) fun _ => rfl) ?_
  refine Holds.behind (holds_fixedLine (by decide) fun _ => rfl) ?_
  refine Holds.behind (Holds.flatMap_nil holds_entryText m) ?_
  refine Holds.behind (holds_fixedLine (by decide) fun _ => rfl) ?_
  exact holds_fixedLine (by decide) fun _ => rfl

theorem checkPackage_eq_ok_iff {name : String} :
    checkPackage name = .ok () ↔ isPackageName name.toList = true := by
  unfold checkPackage
  split_ifs with h
  · exact iff_of_true rfl h
  · exact iff_of_false nofun h

/-- A package name holds letters, digits and underscores only. -/
theorem mem_package {name : String} (h : checkPackage name = .ok ()) {c : Char}
    (hc : c ∈ name.toList) : (isAsciiLetter c || isAsciiDigit c || c == '_') = true := by
  have hp := checkPackage_eq_ok_iff.1 h
  cases hn : name.toList with
  | nil => rw [hn] at hc; cases hc
  | cons d ds =>
    rw [hn] at hp hc
    simp only [isPackageName, Bool.and_eq_true, List.all_eq_true] at hp
    rcases List.mem_cons.1 hc with rfl | hm
    · rw [Bool.or_right_comm, hp.1, Bool.true_or]
    · exact hp.2 c hm

theorem newline_notMem_package {name : String} (h : checkPackage name = .ok ()) :
    '\n' ∉ name.toList :=
  fun hm => absurd (mem_package h hm) (by decide)

/-- A source file is written on one line. -/
theorem newline_notMem_sourceFile (cs : List Char) :
    '\n' ∉ cs.map fun c => if c = '\n' then ' ' else c := by
  intro hm
  obtain ⟨c, -, hc⟩ := List.mem_map.1 hm
  split_ifs at hc with h
  · exact absurd hc (by decide)
  · exact h hc

theorem holds_headText (a : Artifact) (hp : checkPackage a.package = .ok ()) {t : List Char}
    {es : List Entry} (hm : ∀ r, mappingAt? (t ++ r) = none) (h : Holds t es) :
    Holds (a.headText ++ t) es := by
  unfold headText
  simp only [List.append_assoc]
  refine Holds.behind (holds_fixedLine (by decide) fun _ => rfl) ?_
  refine Holds.behind (holds_line ?_ fun _ => rfl) (Holds.emptyLine (fun _ => rfl) ?_)
  · simpa using newline_notMem_sourceFile _
  refine Holds.behind (holds_line ?_ fun _ => rfl) (Holds.emptyLine (fun _ => rfl) ?_)
  · simpa using newline_notMem_package hp
  refine Holds.behind (holds_fixedLine (by decide) fun _ => rfl) ?_
  refine Holds.behind (holds_line ?_ fun _ => rfl) ?_
  · simpa using newline_notMem_quoted _
  refine Holds.behind (holds_fixedLine (by decide) fun _ => rfl) ?_
  exact Holds.emptyLine hm h

/-- **A file holds its mappings and nothing else**, whatever is written into it besides. -/
theorem holds_text (a : Artifact) (hp : checkPackage a.package = .ok ()) :
    Holds a.text (a.mappings.map entryOf) := by
  unfold text
  rw [List.append_assoc]
  refine holds_headText a hp (fun _ => rfl) ?_
  split_ifs
  · have h := (holds_mappingsText a.mappings).append
      (Holds.emptyLine (fun _ => rfl) (holds_typeMapText (TypeMap.ofTables a.tables)))
    rwa [List.append_nil] at h
  · rw [List.append_nil]
    exact holds_mappingsText a.mappings

/-! ### Reading back -/

theorem toMapping_entryOf (m : JobMapping) : (entryOf m).toMapping = .ok m := by
  obtain ⟨schema, table, column, t⟩ := m
  have ht : Transformer.ofConstant? (String.ofList t.constant.toList) = some t := by
    rw [String.ofList_toList]
    cases t; rfl
  unfold Entry.toMapping entryOf
  simp only [ht, decoded_quotedBody]
  show Except.ok (JobMapping.mk (String.ofList schema.toList) (String.ofList table.toList)
    (String.ofList column.toList) t) = _
  rw [String.ofList_toList, String.ofList_toList, String.ofList_toList]

theorem mapM_toMapping : ∀ ms : List JobMapping,
    (ms.map entryOf).mapM Entry.toMapping = .ok ms
  | [] => rfl
  | m :: ms => by
    rw [List.map_cons, List.mapM_cons, toMapping_entryOf, mapM_toMapping ms]
    rfl

theorem render_eq_ok {a : Artifact} {text : String} (h : a.render = .ok text) :
    a.check = .ok () ∧ text = String.ofList a.text := by
  unfold render at h
  cases hc : a.check with
  | error e => rw [hc] at h; cases h
  | ok u =>
    rw [hc] at h
    exact ⟨rfl, (Except.ok.inj h).symm⟩

theorem checkPackage_of_check {a : Artifact} (h : a.check = .ok ()) :
    checkPackage a.package = .ok () := by
  unfold check at h
  cases hp : checkPackage a.package with
  | error e => rw [hp] at h; cases h
  | ok u => rfl

/-- **The mappings of a generated file read back.** Whatever names, types, source file and path
are written into it, the file gives back its mappings, in order and unchanged. -/
theorem readMappings_of_render (a : Artifact) (text : String) (h : a.render = .ok text) :
    readMappings text.toList = .ok a.mappings := by
  obtain ⟨hc, rfl⟩ := render_eq_ok h
  have hr := holds_text a (checkPackage_of_check hc) [] [] (Reads.nil true)
  rw [List.append_nil, List.append_nil] at hr
  rw [String.toList_ofList, readMappings, hr _ (Nat.lt_succ_self _)]
  exact mapM_toMapping a.mappings

/-- A file whose names, types, source file and import path look like parts of a file. -/
def forged : Artifact where
  package := "p"
  sourceFile := "x\n\t\t\tSchema: \"a\","
  mappingsImport := "\"\n\t\t\tSchema: \"a\","
  mappings := [⟨"", "\",\\", "\t\t\tColumn: \"\x01\",", .passthrough⟩]
  tables := [⟨"s", "\"", [⟨"c", some "\n\t\t\tSchema: \"a\","⟩]⟩]
  includesTypes := true

theorem readMappings_forged :
    forged.render = .ok (String.ofList forged.text) ∧
      readMappings (String.ofList forged.text).toList = .ok forged.mappings :=
  have h : forged.render = .ok (String.ofList forged.text) := by rfl
  ⟨h, readMappings_of_render forged _ h⟩

end Artifact
end SchemaMap
