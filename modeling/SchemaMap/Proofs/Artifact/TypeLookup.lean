/-
# The type map of a generated file read back

`Artifact.readTypeMap` finds the function with the type map by its name, wherever in the file the
name occurs first, and reads the lines behind it. In front of that function stand the source file,
the import path and the names of the mappings; if one of these texts holds the name of the
function (`Forges`), the lines behind it are read in its place, and the first lone brace, that of
the mappings, ends the map before it has begun.

So there are three outcomes (`readTypeMap_text`): the empty map of a forged name, the map that was
written, and none. All lines in front of the function are told as one list (`frontLines`): none of
them is read as a line of a map (`frontLines_passed`), and the name occurs in them just where it
occurs in a text (`marker_frontLines`).

Key definitions: `Artifact.marker`, `Artifact.freeTexts`, `Artifact.Forges`,
`Artifact.frontLines`, `Artifact.PassedOver`.
Key theorems: `Artifact.readTypeLines_entries`, `Artifact.readTypeMap_text`,
`Artifact.readTypeMap_of_render_iff`.
-/
import SchemaMap.Proofs.Artifact.Grouping
import SchemaMap.Proofs.Artifact.Mappings
import SchemaMap.Proofs.Text.Occurrence

namespace SchemaMap

/-! ### Entries behind others -/

namespace TypeMap

/-- A key that the entries in front do not have is looked for behind them. -/
theorem update_append {key : String} {f : List (String × String) → List (String × String)}
    (rest : TypeMap) : ∀ {m : TypeMap}, key ∉ m.map Prod.fst →
      update key f (m ++ rest) = m ++ update key f rest
  | [], _ => rfl
  | (k, columns) :: m, h => by
    rw [List.map_cons, List.mem_cons, not_or] at h
    rw [List.cons_append, update, if_neg fun hk => h.1 hk.symm, update_append rest h.2,
      List.cons_append]

end TypeMap

namespace Artifact

open Text

/-! ### The lines of a map -/

/-- The line that opens the entry of a table. -/
def openingLine (key : List Char) : List Char :=
  ['\t', '\t'] ++ (quoted key ++ [':', ' ', '\x7b'])

/-- The line of a column and its type. -/
def columnLine (name type : List Char) : List Char :=
  ['\t', '\t', '\t'] ++ (quoted name ++ ':' :: ' ' :: (quoted type ++ [',']))

theorem keyAt?_quoted (gap : List Char) (hgap : ∀ c ∈ gap, isBlank c = true)
    (cs rest : List Char) :
    keyAt? (gap ++ (quoted cs ++ ':' :: rest)) = some (quotedBody cs, skipBlanks rest) := by
  simp only [keyAt?, skipBlanks_append hgap, skipBlanks_quoted, literal?_quoted, char?,
    Option.bind_eq_bind, Option.bind_some, if_true]
  rfl

theorem ofText_openingLine (key : List Char) :
    TypeLine.ofText (openingLine key) = .table (quotedBody key) := by
  have hkey : keyAt? (openingLine key) = some (quotedBody key, ['\x7b']) :=
    keyAt?_quoted ['\t', '\t'] (forall_mem_of_all (by decide)) key [' ', '\x7b']
  unfold TypeLine.ofText
  rw [hkey]
  rfl

theorem ofText_columnLine (name type : List Char) :
    TypeLine.ofText (columnLine name type) = .column (quotedBody name) (quotedBody type) := by
  have hkey : keyAt? (columnLine name type) = some (quotedBody name, quoted type ++ [',']) := by
    have h := keyAt?_quoted ['\t', '\t', '\t'] (forall_mem_of_all (by decide)) name
      (' ' :: (quoted type ++ [',']))
    rwa [skipBlanks_blank (by decide), skipBlanks_quoted] at h
  have hcolumn : columnAt? (columnLine name type) =
      some (.column (quotedBody name) (quotedBody type)) := by
    unfold columnAt?
    rw [hkey, Option.bind_eq_bind, Option.bind_some]
    dsimp only
    rw [literal?_quoted]
    rfl
  unfold TypeLine.ofText
  rw [hcolumn, hkey]
  rfl

theorem lines_openingLine (key rest : List Char) :
    lines (openingLine key ++ '\n' :: rest) = openingLine key :: lines rest := by
  have hreturn : dropReturn (openingLine key) = openingLine key := by
    have h := dropReturn_concat (c := '\x7b') (by decide)
      (['\t', '\t'] ++ (quoted key ++ [':', ' ']))
    rwa [List.append_assoc, List.append_assoc] at h
  rw [lines_line (by simp [openingLine, newline_notMem_quoted]), hreturn]

theorem lines_columnLine (name type rest : List Char) :
    lines (columnLine name type ++ '\n' :: rest) = columnLine name type :: lines rest := by
  have hreturn : dropReturn (columnLine name type) = columnLine name type := by
    have h := dropReturn_concat (c := ',') (by decide)
      (['\t', '\t', '\t'] ++ (quoted name ++ ':' :: ' ' :: quoted type))
    simpa only [columnLine, List.append_assoc, List.cons_append] using h
  rw [lines_line (by simp [columnLine, newline_notMem_quoted]), hreturn]

theorem typeLine_append (column : String × String) (rest : List Char) :
    typeLine column ++ rest = columnLine column.1.toList column.2.toList ++ '\n' :: rest := by
  simp [typeLine, line, columnLine]

theorem entryText_append (key : String) (columns : List (String × String)) (rest : List Char) :
    entryText (key, columns) ++ rest =
      openingLine key.toList ++ '\n' ::
        (columns.flatMap typeLine ++ ("\t\t\x7d,".toList ++ '\n' :: rest)) := by
  simp [entryText, line, fixedLine, openingLine]

/-- The columns of the table that is open are added to its entry, which is the last one. -/
theorem readTypeLines_columns {m : TypeMap} {key : String} (hkey : key ∉ m.map Prod.fst)
    (rest : List Char) : ∀ columns done : List (String × String),
      readTypeLines (m ++ [(key, done)]) (some key) (lines (columns.flatMap typeLine ++ rest)) =
        readTypeLines (m ++ [(key, done ++ columns)]) (some key) (lines rest)
  | [], done => by rw [List.append_nil]; rfl
  | column :: columns, done => by
    have hadd : TypeMap.update key (· ++ [column]) (m ++ [(key, done)]) =
        m ++ [(key, done ++ [column])] := by
      rw [TypeMap.update_append _ hkey, TypeMap.update, if_pos rfl]
    rw [List.flatMap_cons, List.append_assoc, typeLine_append, lines_columnLine, readTypeLines,
      ofText_columnLine]
    simp only [decoded_quotedBody, String.ofList_toList]
    rw [hadd, readTypeLines_columns hkey rest columns, List.append_assoc, List.singleton_append]

/-- The lines of an entry add it to the map. -/
theorem readTypeLines_entry {m : TypeMap} {entry : String × List (String × String)}
    (hkey : entry.1 ∉ m.map Prod.fst) (rest : List Char) :
    readTypeLines m none (lines (entryText entry ++ rest)) =
      readTypeLines (m ++ [entry]) none (lines rest) := by
  obtain ⟨key, columns⟩ := entry
  have hopen : TypeMap.update key id m = m ++ [(key, [])] := by
    have h := TypeMap.update_append (f := id) [] hkey
    rwa [List.append_nil] at h
  rw [entryText_append, lines_openingLine, readTypeLines, ofText_openingLine]
  simp only [decoded_quotedBody, String.ofList_toList]
  rw [hopen, readTypeLines_columns hkey, lines_line (by decide)]
  rfl

/-- The entries of a map with distinct keys are read in order. -/
theorem readTypeLines_entries (rest : List Char) : ∀ entries m : TypeMap,
    ((m ++ entries).map Prod.fst).Nodup →
      readTypeLines m none (lines (entries.flatMap entryText ++ rest)) =
        readTypeLines (m ++ entries) none (lines rest)
  | [], m, _ => by rw [List.append_nil]; rfl
  | entry :: entries, m, hn => by
    have hkey : entry.1 ∉ m.map Prod.fst := by
      intro hm
      rw [List.map_append, List.map_cons] at hn
      exact (List.nodup_append.1 hn).2.2 _ hm _ List.mem_cons_self rfl
    have hassoc : m ++ entry :: entries = (m ++ [entry]) ++ entries := by simp
    rw [List.flatMap_cons, List.append_assoc, readTypeLines_entry hkey, hassoc]
    rw [hassoc] at hn
    exact readTypeLines_entries rest entries (m ++ [entry]) hn

/-! ### Lines that are passed over -/

/-- A line that is neither an entry nor the end of the map. -/
def PassedOver (l : List Char) : Prop :=
  TypeLine.ofText (dropReturn l) = .other ∨ TypeLine.ofText (dropReturn l) = .close

theorem readTypeLines_passed (m : TypeMap) (rest : List (List Char)) :
    ∀ {ls : List (List Char)}, (∀ l ∈ ls, PassedOver l) →
      readTypeLines m none (ls.map dropReturn ++ rest) = readTypeLines m none rest
  | [], _ => rfl
  | l :: ls, h => by
    have ih := readTypeLines_passed m rest fun k hk => h k (List.mem_cons_of_mem l hk)
    rw [List.map_cons, List.cons_append, readTypeLines]
    rcases h l List.mem_cons_self with hl | hl
    · rw [hl]; exact ih
    · rw [hl]; exact ih

theorem skipBlanks_dropReturn : ∀ cs : List Char,
    (skipBlanks (dropReturn cs)).head? = (skipBlanks cs).head?
  | [] => rfl
  | c :: cs => by
    by_cases hr : c = '\r' ∧ cs = []
    · obtain ⟨rfl, rfl⟩ := hr
      rfl
    · rw [dropReturn_cons fun hc hnil => hr ⟨hc, hnil⟩]
      cases hb : isBlank c with
      | true => rw [skipBlanks_blank hb, skipBlanks_blank hb, skipBlanks_dropReturn cs]
      | false => rw [skipBlanks_of_head hb, skipBlanks_of_head hb]; rfl

theorem dropEndWhile_head? {p : Char → Bool} {c : Char} (h : p c = false) (cs : List Char) :
    (dropEndWhile p (c :: cs)).head? = some c := by
  rw [dropEndWhile]
  cases dropEndWhile p cs with
  | nil => simp [h]
  | cons d ds => rfl

/-- The first character of a line that is not white space. -/
theorem trim_head? (cs : List Char) : (trim cs).head? = (skipBlanks cs).head? := by
  show (dropEndWhile isBlank (skipBlanks cs)).head? = _
  cases hs : skipBlanks cs with
  | nil => rfl
  | cons c rest =>
    have hc : isBlank c = false := by
      have h := List.head?_dropWhile_not isBlank cs
      rw [show cs.dropWhile isBlank = c :: rest from hs] at h
      simpa using h
    exact dropEndWhile_head? hc rest

/-- A line is passed over if its first character opens no quoted text and closes nothing. -/
theorem passedOver_of_head {l : List Char} (hq : (skipBlanks l).head? ≠ some '"')
    (hb : (skipBlanks l).head? ≠ some '\x7d') : PassedOver l := by
  left
  generalize hd : dropReturn l = cs
  have hhead : (skipBlanks cs).head? = (skipBlanks l).head? := by
    rw [← hd, skipBlanks_dropReturn]
  have hkey : keyAt? cs = none := by
    have hlit : literal? (skipBlanks cs) = none := by
      rw [← hhead] at hq
      cases hs : skipBlanks cs with
      | nil => rfl
      | cons c rest =>
        rw [hs] at hq
        have hc : c ≠ '"' := fun h => hq (by rw [h]; rfl)
        rw [literal?]
        exact fun _ h => hc (List.cons.inj h).1
    unfold keyAt?
    rw [hlit]
    rfl
  have htrim : ∀ rest, trim cs ≠ '\x7d' :: rest := by
    intro rest h
    apply hb
    rw [← hhead, ← trim_head?, h]
    rfl
  unfold TypeLine.ofText columnAt?
  rw [hkey]
  show (if trim cs = ['\x7d', ','] then TypeLine.close
    else if trim cs = ['\x7d'] then TypeLine.stop else TypeLine.other) = .other
  rw [if_neg (htrim _), if_neg (htrim _)]

/-- Whether a text shows by its first character that a line with it in front is passed over. -/
def isPlainLabel (label : List Char) : Bool :=
  (skipBlanks label).head?.any fun c => c != '"' && c != '\x7d'

theorem passedOver_label {label : List Char} (h : isPlainLabel label = true) (rest : List Char) :
    PassedOver (label ++ rest) := by
  have hhead : (skipBlanks (label ++ rest)).head? = (skipBlanks label).head? := by
    unfold isPlainLabel at h
    unfold skipBlanks at h ⊢
    rw [List.dropWhile_append]
    cases hd : label.dropWhile isBlank with
    | nil => rw [hd] at h; cases h
    | cons c cs => rfl
  apply passedOver_of_head
  · intro hq
    rw [isPlainLabel, ← hhead, hq] at h
    cases h
  · intro hb
    rw [isPlainLabel, ← hhead, hb] at h
    cases h

theorem passedOver_plain {l : List Char} (h : isPlainLabel l = true) : PassedOver l := by
  rw [← List.append_nil l]
  exact passedOver_label h []

/-! ### The lines in front of the map -/

/-- What the function with the type map is found by. -/
def marker : List Char :=
  "func GetTableColumnTypeMap()".toList

/-- The lines in front of the functions. -/
def headLines (a : Artifact) : List (List Char) :=
  ["// Code generated by jobmapping-gen. DO NOT EDIT.".toList,
    "// source: ".toList ++ a.sourceFile.toList.map fun c => if c = '\n' then ' ' else c,
    [],
    "package ".toList ++ a.package.toList,
    [],
    "import (".toList,
    "\tmgmtv1alpha1 ".toList ++ quoted a.mappingsImport.toList,
    ")".toList,
    []]

/-- The lines of a mapping. -/
def mappingLines (m : JobMapping) : List (List Char) :=
  ["\t\t\x7b".toList,
    "\t\t\tSchema: ".toList ++ (quoted m.schema.toList ++ [',']),
    "\t\t\tTable:  ".toList ++ (quoted m.table.toList ++ [',']),
    "\t\t\tColumn: ".toList ++ (quoted m.column.toList ++ [',']),
    "\t\t\tTransformer: &mgmtv1alpha1.JobMappingTransformer\x7b".toList,
    "\t\t\t\tSource: mgmtv1alpha1.TransformerSource_".toList
      ++ (m.transformer.constant.toList ++ [',']),
    "\t\t\t\x7d,".toList,
    "\t\t\x7d,".toList]

/-- The lines of a file up to its last mapping. -/
def frontLines (a : Artifact) : List (List Char) :=
  headLines a
    ++ ["func GetDefaultSyncJobMappings() []*mgmtv1alpha1.JobMapping \x7b".toList,
      "\treturn []*mgmtv1alpha1.JobMapping\x7b".toList]
    ++ a.mappings.flatMap mappingLines

/-- What follows the mappings of a file. -/
def rearText (a : Artifact) : List Char :=
  "\t\x7d".toList ++ '\n' :: ("\x7d".toList ++ '\n' ::
    if a.includesTypes then '\n' :: typeMapText (TypeMap.ofTables a.tables) else [])

/-- The text of lines, each written by itself. -/
theorem fixedLine_eq (s : String) : fixedLine s = unlines [s.toList] := by
  simp [fixedLine]

theorem line_eq (parts : List (List Char)) : line parts = unlines [parts.flatten] := by
  simp [line]

theorem mappingText_eq (m : JobMapping) : mappingText m = unlines (mappingLines m) := by
  unfold mappingText mappingLines
  simp only [fixedLine_eq, line_eq, ← unlines_append]
  simp

theorem headText_eq (a : Artifact) : headText a = unlines (headLines a) := by
  unfold headText headLines
  simp only [fixedLine_eq, line_eq, ← unlines_append]
  simp

theorem text_eq (a : Artifact) : a.text = unlines (frontLines a) ++ rearText a := by
  have hmappings : a.mappings.flatMap mappingText = unlines (a.mappings.flatMap mappingLines) := by
    rw [unlines, List.flatMap_assoc]
    exact congrArg a.mappings.flatMap (funext mappingText_eq)
  unfold text mappingsText frontLines rearText
  rw [hmappings, headText_eq]
  generalize headLines a = head, a.mappings.flatMap mappingLines = mappings
  simp only [fixedLine, unlines_append, unlines_cons, unlines_nil]
  simp only [List.append_assoc, List.cons_append, List.nil_append]
  rfl

/-! ### What the lines in front are -/

/-- The texts that are written into the lines in front of the map, as they stand there. -/
def freeTexts (a : Artifact) : List (List Char) :=
  (a.sourceFile.toList.map fun c => if c = '\n' then ' ' else c)
    :: quotedBody a.mappingsImport.toList
    :: a.mappings.flatMap fun m =>
      [quotedBody m.schema.toList, quotedBody m.table.toList, quotedBody m.column.toList]

/-- Whether one of these texts holds the name of the function with the type map. -/
def Forges (a : Artifact) : Prop :=
  OccursIn marker a.freeTexts

instance (a : Artifact) : Decidable a.Forges := by
  unfold Forges OccursIn; infer_instance

theorem newline_notMem_frontLines {a : Artifact} (hp : checkPackage a.package = .ok ()) :
    ∀ l ∈ frontLines a, '\n' ∉ l := by
  have hconstant (t : Transformer) : '\n' ∉ t.constant.toList := by cases t; decide
  intro l hl
  simp only [frontLines, headLines, mappingLines, List.mem_append, List.mem_flatMap,
    List.mem_cons, List.not_mem_nil, or_false] at hl
  rcases hl with ((rfl | rfl | rfl | rfl | rfl | rfl | rfl | rfl | rfl) | rfl | rfl) |
    ⟨m, -, rfl | rfl | rfl | rfl | rfl | rfl | rfl | rfl⟩
  all_goals
    simp [-List.mem_map, newline_notMem_quoted, newline_notMem_package hp, hconstant,
      newline_notMem_sourceFile]

theorem frontLines_passed (a : Artifact) : ∀ l ∈ frontLines a, PassedOver l := by
  have hempty : PassedOver [] := .inl rfl
  intro l hl
  simp only [frontLines, headLines, mappingLines, List.mem_append, List.mem_flatMap,
    List.mem_cons, List.not_mem_nil, or_false] at hl
  rcases hl with ((rfl | rfl | rfl | rfl | rfl | rfl | rfl | rfl | rfl) | rfl | rfl) |
    ⟨m, -, rfl | rfl | rfl | rfl | rfl | rfl | rfl | rfl⟩
  · exact passedOver_plain (by decide)
  · exact passedOver_label (by decide) _
  · exact hempty
  · exact passedOver_label (by decide) _
  · exact hempty
  · exact passedOver_plain (by decide)
  · exact passedOver_label (by decide) _
  · exact passedOver_plain (by decide)
  · exact hempty
  · exact passedOver_plain (by decide)
  · exact passedOver_plain (by decide)
  · exact passedOver_plain (by decide)
  · exact passedOver_label (by decide) _
  · exact passedOver_label (by decide) _
  · exact passedOver_label (by decide) _
  · exact passedOver_plain (by decide)
  · exact passedOver_label (by decide) _
  -- the lines that close a transformer and a mapping
  · exact .inr rfl
  · exact .inr rfl

/-! ### Where the name of the function can stand -/

theorem marker_notInfix {c : Char} (hc : c ∈ marker) {l : List Char} (hl : c ∉ l) :
    ¬marker <:+: l :=
  fun h => hl (h.subset hc)

/-- In a line with a quoted text the name can only stand in that text. -/
theorem marker_infix_quoted {label behind : List Char} (hlabel : 'f' ∉ label)
    (hbehind : ')' ∉ behind) (cs : List Char) :
    marker <:+: label ++ (quoted cs ++ behind) ↔ marker <:+: quotedBody cs := by
  have hfront : 'f' ∉ label ++ ['"'] := by simp [hlabel]
  have hrear : ')' ∉ '"' :: behind := by simp [hbehind]
  have hline : label ++ (quoted cs ++ behind) =
      (label ++ ['"']) ++ (quotedBody cs ++ '"' :: behind) := by
    simp [quoted_eq]
  rw [hline, infix_append_right (c := 'f') rfl _ hfront, infix_append_left (c := ')') rfl _ hrear]

theorem marker_headLines {a : Artifact} (hp : checkPackage a.package = .ok ()) :
    OccursIn marker (headLines a) ↔
      marker <:+: (a.sourceFile.toList.map fun c => if c = '\n' then ' ' else c) ∨
        marker <:+: quotedBody a.mappingsImport.toList := by
  have hnote : ¬marker <:+: "// Code generated by jobmapping-gen. DO NOT EDIT.".toList :=
    marker_notInfix (c := ')') (by decide) (by decide)
  have hempty : ¬marker <:+: [] := marker_notInfix (c := ')') (by decide) (by decide)
  have hpackage : ¬marker <:+: "package ".toList ++ a.package.toList := by
    refine marker_notInfix (c := '(') (by decide) fun hm => ?_
    rcases List.mem_append.1 hm with hm | hm
    · exact absurd hm (by decide)
    · exact absurd (mem_package hp hm) (by decide)
  have himport : ¬marker <:+: "import (".toList :=
    marker_notInfix (c := ')') (by decide) (by decide)
  have hclose : ¬marker <:+: ")".toList := marker_notInfix (c := '(') (by decide) (by decide)
  have hquoted : marker <:+: "\tmgmtv1alpha1 ".toList ++ quoted a.mappingsImport.toList ↔
      marker <:+: quotedBody a.mappingsImport.toList := by
    have h := marker_infix_quoted (show 'f' ∉ "\tmgmtv1alpha1 ".toList by decide)
      (List.not_mem_nil (a := ')')) a.mappingsImport.toList
    rwa [List.append_nil] at h
  unfold headLines
  simp only [occursIn_cons, occursIn_nil, hnote, hempty, hpackage, himport, hclose, false_or,
    or_false]
  rw [hquoted, infix_append_right (c := 'f') rfl _ (by decide)]

theorem marker_mappingLines (m : JobMapping) :
    OccursIn marker (mappingLines m) ↔
      marker <:+: quotedBody m.schema.toList ∨ marker <:+: quotedBody m.table.toList ∨
        marker <:+: quotedBody m.column.toList := by
  have hclosing {l : List Char} (h : ')' ∉ l) : ¬marker <:+: l :=
    marker_notInfix (by decide) h
  have hopen : ¬marker <:+: "\t\t\x7b".toList := hclosing (by decide)
  have htransformer :
      ¬marker <:+: "\t\t\tTransformer: &mgmtv1alpha1.JobMappingTransformer\x7b".toList :=
    hclosing (by decide)
  have hsource : ¬marker <:+: "\t\t\t\tSource: mgmtv1alpha1.TransformerSource_".toList
      ++ (m.transformer.constant.toList ++ [',']) := by
    cases m.transformer
    exact hclosing (by decide)
  have hinner : ¬marker <:+: "\t\t\t\x7d,".toList := hclosing (by decide)
  have houter : ¬marker <:+: "\t\t\x7d,".toList := hclosing (by decide)
  unfold mappingLines
  simp only [occursIn_cons, occursIn_nil, hopen, htransformer, hsource, hinner, houter, false_or,
    or_false]
  rw [marker_infix_quoted (by decide) (by decide), marker_infix_quoted (by decide) (by decide),
    marker_infix_quoted (by decide) (by decide)]

/-- The name stands in one of the lines just where it stands in a text that is written. -/
theorem marker_frontLines {a : Artifact} (hp : checkPackage a.package = .ok ()) :
    OccursIn marker (frontLines a) ↔ a.Forges := by
  have hdefaults :
      ¬marker <:+: "func GetDefaultSyncJobMappings() []*mgmtv1alpha1.JobMapping \x7b".toList :=
    marker_notInfix (c := 'C') (by decide) (by decide)
  have hreturn : ¬marker <:+: "\treturn []*mgmtv1alpha1.JobMapping\x7b".toList :=
    marker_notInfix (c := ')') (by decide) (by decide)
  have hmapping (m : JobMapping) : OccursIn marker (mappingLines m) ↔ OccursIn marker
      [quotedBody m.schema.toList, quotedBody m.table.toList, quotedBody m.column.toList] := by
    rw [marker_mappingLines]
    simp
  unfold Forges frontLines freeTexts
  simp only [occursIn_append, occursIn_cons, occursIn_nil, occursIn_flatMap, marker_headLines hp,
    hdefaults, hreturn, hmapping, or_false, or_assoc]

/-- The last line in front holds no text. -/
theorem marker_last_frontLines {a : Artifact} {before : List (List Char)} {l : List Char}
    (h : frontLines a = before ++ [l]) : ¬marker <:+: l := by
  have hlast : (frontLines a).getLast? = some l := by
    rw [h, List.getLast?_concat]
  rcases List.eq_nil_or_concat a.mappings with hm | ⟨ms, m, hm⟩
  · rw [frontLines, hm, List.flatMap_nil, List.append_nil, List.getLast?_append] at hlast
    rw [← Option.some.inj hlast]
    exact marker_notInfix (c := ')') (by decide) (by decide)
  · rw [frontLines, hm, List.concat_eq_append, List.flatMap_append, List.flatMap_singleton,
      List.getLast?_append, List.getLast?_append] at hlast
    rw [← Option.some.inj hlast]
    show ¬marker <:+: "\t\t\x7d,".toList
    exact marker_notInfix (c := ')') (by decide) (by decide)

/-! ### Reading back -/

theorem readTypeMap_of_none {cs : List Char} (h : find? marker cs = none) :
    readTypeMap cs = .ok none := by
  unfold readTypeMap
  rw [show "func GetTableColumnTypeMap()".toList = marker from rfl, h]

theorem readTypeMap_of_found {cs found : List Char} (h : find? marker cs = some found) :
    readTypeMap cs = (readTypeLines [] none ((lines found).drop 2)).map some := by
  unfold readTypeMap
  rw [show "func GetTableColumnTypeMap()".toList = marker from rfl, h]

/-- A text reads as what follows the first name in it. -/
theorem readTypeMap_congr {cs ds : List Char} (h : find? marker cs = find? marker ds) :
    readTypeMap cs = readTypeMap ds := by
  unfold readTypeMap
  rw [show "func GetTableColumnTypeMap()".toList = marker from rfl, h]

/-- Behind a forged name, the lines of the mappings are read, and their end ends the map. -/
theorem readTypeMap_forged {a : Artifact} (hp : checkPackage a.package = .ok ())
    (h : a.Forges) : readTypeMap a.text = .ok (some []) := by
  obtain ⟨before, l, later, s, hfront, hl, hs, hfound⟩ :=
    find?_unlines_of_occursIn (p := marker) (by decide) (by decide) (rearText a)
      ((marker_frontLines hp).2 h)
  -- a line is dropped behind that of the name, but not the end of the mappings
  obtain ⟨next, more, rfl⟩ : ∃ next more, later = next :: more := by
    refine List.exists_cons_of_ne_nil ?_
    rintro rfl
    exact marker_last_frontLines hfront hl
  have hmem : ∀ k ∈ l :: next :: more, k ∈ frontLines a := by
    intro k hk
    rw [hfront]
    exact List.mem_append_right before hk
  have hlines : lines (s ++ '\n' :: (unlines (next :: more) ++ rearText a)) =
      dropReturn s :: dropReturn next :: (more.map dropReturn ++ lines (rearText a)) := by
    have hline : '\n' ∉ s := fun hm =>
      newline_notMem_frontLines hp l (hmem l List.mem_cons_self) (hs.subset hm)
    rw [lines_line hline, lines_unlines_append _ fun k hk =>
      newline_notMem_frontLines hp k (hmem k (List.mem_cons_of_mem l hk))]
    rfl
  have hpassed : ∀ k ∈ more, PassedOver k := fun k hk =>
    frontLines_passed a k (hmem k (List.mem_cons_of_mem l (List.mem_cons_of_mem next hk)))
  have hstop : readTypeLines [] none (lines (rearText a)) = .ok [] := by
    rw [rearText, lines_line (by decide)]
    rfl
  rw [text_eq, readTypeMap_of_found hfound, hlines, List.drop_succ_cons, List.drop_succ_cons,
    List.drop_zero, readTypeLines_passed [] _ hpassed, hstop]
  rfl

/-- The function with the type map reads as the map that is written in it, whatever follows. -/
theorem readTypeMap_typeMapText {m : TypeMap} (hkeys : (m.map Prod.fst).Nodup)
    (rest : List Char) : readTypeMap (typeMapText m ++ rest) = .ok (some m) := by
  have htext : typeMapText m ++ rest =
      marker ++ (" map[string]map[string]string \x7b".toList ++ '\n' ::
        ("\treturn map[string]map[string]string\x7b".toList ++ '\n' ::
          (m.flatMap entryText ++ ("\t\x7d".toList ++ '\n' :: (fixedLine "\x7d" ++ rest))))) := by
    unfold typeMapText
    rw [List.append_assoc, List.append_assoc, List.append_assoc, List.append_assoc,
      fixedLine_append, fixedLine_append, fixedLine_append, ← List.append_assoc marker]
    rfl
  have hlines : lines (typeMapText m ++ rest) =
      dropReturn (marker ++ " map[string]map[string]string \x7b".toList) ::
        dropReturn "\treturn map[string]map[string]string\x7b".toList ::
          lines (m.flatMap entryText ++
            ("\t\x7d".toList ++ '\n' :: (fixedLine "\x7d" ++ rest))) := by
    rw [htext, ← List.append_assoc marker, lines_line (by decide), lines_line (by decide)]
  have hfound : find? marker (typeMapText m ++ rest) = some (typeMapText m ++ rest) := by
    rw [htext]
    exact find?_of_prefix (c := 'f') (List.prefix_append marker _)
  rw [readTypeMap_of_found hfound, hlines, List.drop_succ_cons, List.drop_succ_cons,
    List.drop_zero, readTypeLines_entries _ m [] hkeys, lines_line (by decide)]
  rfl

/-- Where no name is forged, the map is found, if there is one. -/
theorem readTypeMap_unforged {a : Artifact} (hp : checkPackage a.package = .ok ())
    (h : ¬a.Forges) : readTypeMap a.text =
      .ok (if a.includesTypes then some (TypeMap.declared a.tables) else none) := by
  have hfront : ¬OccursIn marker (frontLines a) := fun ho => h ((marker_frontLines hp).1 ho)
  have hclosing : ¬marker <:+: "\t\x7d".toList ∧ ¬marker <:+: "\x7d".toList ∧ ¬marker <:+: [] := by
    decide
  have hfind : find? marker a.text =
      find? marker (if a.includesTypes then '\n' :: typeMapText (TypeMap.ofTables a.tables) else [])
      := by
    rw [text_eq, find?_unlines (by decide) _ hfront, rearText,
      find?_line (by decide) _ hclosing.1, find?_line (by decide) _ hclosing.2.1]
  cases hi : a.includesTypes with
  | false =>
    rw [hi] at hfind
    exact readTypeMap_of_none hfind
  | true =>
    rw [hi, if_pos rfl] at hfind
    have hskip : find? marker ('\n' :: typeMapText (TypeMap.ofTables a.tables)) =
        find? marker (typeMapText (TypeMap.ofTables a.tables)) :=
      find?_line (l := []) (by decide) _ hclosing.2.2
    rw [readTypeMap_congr (hfind.trans hskip), TypeMap.ofTables_eq]
    have hread := readTypeMap_typeMapText (TypeMap.declared_keys_nodup a.tables) []
    rwa [List.append_nil] at hread

/-- What a generated file gives back for its type map. -/
theorem readTypeMap_text {a : Artifact} (hp : checkPackage a.package = .ok ()) :
    readTypeMap a.text =
      .ok (if a.Forges then some []
        else if a.includesTypes then some (TypeMap.declared a.tables) else none) := by
  by_cases h : a.Forges
  · rw [if_pos h, readTypeMap_forged hp h]
  · rw [if_neg h, readTypeMap_unforged hp h]

/-- **When the type map of a generated file reads back.** A file gives back the type map that was
written into it, or none if there is none, just where no source file, import path or name of a
mapping is written with the name of the function in it, or where the map is there and empty. -/
theorem readTypeMap_of_render_iff (a : Artifact) (text : String) (h : a.render = .ok text) :
    readTypeMap text.toList =
        .ok (if a.includesTypes then some (TypeMap.declared a.tables) else none) ↔
      (a.Forges → a.includesTypes = true ∧ a.tables = []) := by
  obtain ⟨hc, rfl⟩ := render_eq_ok h
  rw [String.toList_ofList, readTypeMap_text (checkPackage_of_check hc)]
  by_cases hf : a.Forges
  · rw [if_pos hf]
    cases a.includesTypes with
    | false => simp [hf]
    | true =>
      have hnil : ([] : TypeMap) = TypeMap.declared a.tables ↔ a.tables = [] :=
        eq_comm.trans TypeMap.declared_eq_nil
      simp [hf, hnil]
  · rw [if_neg hf]
    exact ⟨fun _ h => absurd h hf, fun _ => rfl⟩

/-- A file with two tables of one name, whose types and names look like lines of the map. -/
def typed : Artifact where
  package := "p"
  sourceFile := "\n\t\"a\": \x7b"
  mappingsImport := "\n\t\t\x7d"
  mappings := [⟨"", "\t\"a\": \x7b", "\x7d", .passthrough⟩]
  tables := [⟨"s", "\"", [⟨"c", some "\n\x7d"⟩]⟩,
    ⟨"s", "t", [⟨"func GetTableColumnTypeMap()", none⟩]⟩,
    ⟨"s", "\"", [⟨"c", some "int"⟩, ⟨"d", some "func GetTableColumnTypeMap()"⟩]⟩]
  includesTypes := true

theorem readTypeMap_typed :
    typed.render = .ok (String.ofList typed.text) ∧ ¬typed.Forges ∧
      readTypeMap (String.ofList typed.text).toList =
        .ok (some [("s.\"", [("c", "\n\x7d"), ("d", "func GetTableColumnTypeMap()")]),
          ("s.t", [("func GetTableColumnTypeMap()", "")])]) :=
  have h : typed.render = .ok (String.ofList typed.text) := by rfl
  have hf : ¬typed.Forges := by decide
  ⟨h, hf, (readTypeMap_of_render_iff typed _ h).2 fun hforges => absurd hforges hf⟩

/-- A file made from a source file with the name of the function in it. -/
def forgedSource : Artifact where
  package := "p"
  sourceFile := "func GetTableColumnTypeMap()"
  mappingsImport := defaultImport
  mappings := [⟨"s", "t", "c", .passthrough⟩]
  tables := [⟨"s", "t", [⟨"c", some "int"⟩]⟩]
  includesTypes := true

/-- Such a file gives back an empty map, whatever was written into it. -/
theorem readTypeMap_forgedSource :
    forgedSource.render = .ok (String.ofList forgedSource.text) ∧
      forgedSource.includesTypes = true ∧
      readTypeMap (String.ofList forgedSource.text).toList = .ok (some []) ∧
      readTypeMap (String.ofList forgedSource.text).toList ≠
        .ok (some (TypeMap.declared forgedSource.tables)) := by
  have hread : readTypeMap (String.ofList forgedSource.text).toList = .ok (some []) := by
    rw [String.toList_ofList]
    exact readTypeMap_forged rfl (by decide)
  have hne : TypeMap.declared forgedSource.tables ≠ [] := fun h =>
    List.cons_ne_nil _ _ (TypeMap.declared_eq_nil.1 h)
  refine ⟨rfl, rfl, hread, fun h => hne ?_⟩
  rw [hread] at h
  exact (Option.some.inj (Except.ok.inj h)).symm

end Artifact
end SchemaMap
