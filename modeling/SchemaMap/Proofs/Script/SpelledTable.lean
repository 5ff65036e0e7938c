/-
# Tables as they are spelled

A statement that creates a table is spelled with a head, the parts of the name with dots between them,
and a column list, with white space where it may stand and any text behind the list. The reader of the
text takes it apart: it gives the parts of the name, and what it reads of each element of the list by
itself. Comments do not count; a text that is spelled like this but for its comments is read like the
text without them.

Key definitions: `Script.SpelledTable`, `Script.SpelledTable.columnNames`.
Key theorems: `Script.SpelledTable.tableDeclared?_text`, `Script.SpelledTable.tableDeclared?_eq`.
-/
import SchemaMap.Proofs.Script.SpelledElement
import SchemaMap.Proofs.Script.TableHead
import SchemaMap.Proofs.Script.Uncommented

namespace SchemaMap
namespace Script

open Text (isBlank isAsciiLetter caseFold keyword? keywords? trim IsTrimmed forall_mem_of_all)

/-- A statement that creates a table: white space, the words of its head, the parts of its name, white
space, its column list, and what stands behind that. -/
structure SpelledTable where
  front : List Char
  head : TableHead
  names : List SpelledName
  gap : List Char
  elements : List SpelledElement
  behind : List Char
  front_blank : ∀ c ∈ front, isBlank c = true
  names_ne_nil : names ≠ []
  held : ∀ n ∈ names, n.HeldInName
  gap_blank : ∀ c ∈ gap, isBlank c = true

namespace SpelledTable

variable (T : SpelledTable)

/-- The parts of the name with a dot between each two. -/
def nameText : List Char :=
  List.intercalate ['.'] (T.names.map SpelledName.text)

/-- The elements of the column list with a comma between each two. -/
def listText : List Char :=
  List.intercalate [','] (T.elements.map SpelledElement.text)

/-- The statement as it is spelled. -/
def text : List Char :=
  T.front ++ T.head.text ++ (T.nameText ++ T.gap ++ '(' :: (T.listText ++ [')'])) ++ T.behind

/-- The names of the columns that the statement is meant to declare. -/
def columnNames : List String :=
  T.elements.filterMap SpelledElement.written?

end SpelledTable

/-! ### Elements -/

namespace SpelledElement

theorem whole (e : SpelledElement) : Whole (· == ',') e.text := by
  have hblank {gap : List Char} (h : ∀ c ∈ gap, isBlank c = true) : Whole (· == ',') gap :=
    whole_code (fun c hc => isCalm_of_isBlank (h c hc)) fun c hc =>
      ⟨Text.ne_of_class (by decide) (h c hc), Text.ne_of_class (by decide) (h c hc),
        beq_eq_false_iff_ne.2 (Text.ne_of_class (by decide) (h c hc))⟩
  cases e with
  | column c =>
    show Whole (· == ',') (c.gap ++ c.name.text ++ c.behind)
    rw [List.append_assoc]
    exact (hblank c.gap_blank).append c.whole
  | clause k =>
    show Whole (· == ',') (k.gap ++ k.word ++ k.behind)
    rw [List.append_assoc]
    exact (hblank k.gap_blank).append k.whole

theorem trim_ne_nil (e : SpelledElement) : trim e.text ≠ [] := by
  cases e with
  | column c =>
    show trim (c.gap ++ c.name.text ++ c.behind) ≠ []
    rw [c.name.isTrimmed.trim_append c.gap_blank]
    exact List.append_ne_nil_of_left_ne_nil c.name.isTrimmed.ne_nil _
  | clause k =>
    show trim (k.gap ++ k.word ++ k.behind) ≠ []
    rw [(isTrimmed_of_unmarked k.word_ne_nil k.word_unmarked).trim_append k.gap_blank]
    exact List.append_ne_nil_of_left_ne_nil k.word_ne_nil _

end SpelledElement

/-! ### The name -/

/-- The letters of `IF`, in either case, stand in plain names. -/
theorem isUnmarked_of_fold {c : Char} (h : caseFold c ∈ "IF".toList) : isUnmarked c = true := by
  have hfold : ∀ d ∈ "IF".toList, d ≠ 'S' ∧ d ≠ 'K' ∧ isAsciiLetter d = true :=
    forall_mem_of_all (by decide)
  obtain ⟨hs, hk, hletter⟩ := hfold _ h
  rw [Text.caseFold_eq_asciiUpper hs hk] at hletter
  exact isUnmarked_of_isAsciiLetter (Text.isAsciiLetter_of_asciiUpper hletter)

theorem isUnmarked_of_isBlank {c : Char} (h : isBlank c = true) : isUnmarked c = false := by
  refine Bool.eq_false_iff.2 fun hunmarked => ?_
  rw [isBlank_of_isUnmarked hunmarked] at h
  cases h

/-- A plain name in front of a dot or of white space is not the word `IF` with `NOT` behind it. -/
theorem keywords?_unmarked {w : List Char} (hw : ∀ c ∈ w, isUnmarked c = true) {tail : List Char}
    (htail : (∃ rest, tail = '.' :: rest) ∨ ∀ c ∈ tail, isBlank c = true) :
    keywords? ["IF", "NOT", "EXISTS"] (w ++ tail) = none := by
  by_contra hsome
  obtain ⟨s, hs⟩ := Option.ne_none_iff_exists'.1 hsome
  obtain ⟨front, gap, rest, htext, hfront, hne, hgap, hs⟩ := Text.keywords?_eq_some hs
  obtain ⟨c, cs, hnot, hc⟩ := Text.keywords?_head (d := 'N') rfl hs
  have hblanks := isBlank_of_head hne hgap rest
  -- the name ends where the word `IF` does
  have hif : ∀ d ∈ front, isUnmarked d = true := fun d hd =>
    isUnmarked_of_fold (hfront ▸ List.mem_map_of_mem hd)
  have hend : ∀ d ∈ (gap ++ rest).head?, isUnmarked d = false := fun d hd =>
    isUnmarked_of_isBlank (hblanks d hd)
  have hbehind : ∀ d ∈ tail.head?, isUnmarked d = false := by
    rcases htail with ⟨more, rfl⟩ | hblank
    · exact Text.forall_mem_some (by decide)
    · exact fun d hd => isUnmarked_of_isBlank (hblank d (List.mem_of_mem_head? hd))
  have hword := Text.takeWhile_front hif hend
  rw [← htext, Text.takeWhile_front hw hbehind] at hword
  rw [hword] at htext
  obtain rfl : tail = gap ++ rest := List.append_cancel_left htext
  rcases htail with ⟨more, hdot⟩ | hblank
  · rw [hdot] at hblanks
    exact absurd (hblanks '.' rfl) (by decide)
  · have hmem : c ∈ gap ++ rest := by
      rw [hnot]
      exact List.mem_append_right gap List.mem_cons_self
    have hletter : isBlank c = false := isBlank_of_letter (by rw [hc]; decide)
    rw [hblank c hmem] at hletter
    cases hletter

/-- **No name goes on with the last words of the head.** -/
theorem keywords?_name (n : SpelledName) {tail : List Char}
    (htail : (∃ rest, tail = '.' :: rest) ∨ ∀ c ∈ tail, isBlank c = true) :
    keywords? ["IF", "NOT", "EXISTS"] (n.text ++ tail) = none := by
  by_cases h : n.spelling = .plain
  · obtain ⟨c, cs, htext, -, -⟩ := n.exists_plain h
    rw [htext]
    exact keywords?_unmarked (n.word h).2 htail
  · obtain ⟨o, e, hmarks, htext⟩ := n.exists_marks h
    rw [htext, List.cons_append]
    apply Text.keywords?_none (d := 'I') rfl
    cases hmarks <;> decide

namespace SpelledTable

variable (T : SpelledTable)

theorem isTableName : IsTableName T.nameText where
  flat := Text.intercalate_closed flat_nil Flat.append (flat_plain (by decide))
    (List.forall_mem_map.2 fun n hn => (T.held n hn).flat)
  commentless := Text.intercalate_closed commentless_nil Commentless.append
    (commentless_code (forall_mem_of_all (by decide)))
    (List.forall_mem_map.2 fun n hn => (T.held n hn).commentless)
  one := by
    have hone : OnePart isBlank T.nameText :=
      Text.intercalate_closed whole_nil.onePart OnePart.append (whole_plain (by decide)).onePart
        (List.forall_mem_map.2 fun n hn => (T.held n hn).onePart fun _ _ hblank => hblank)
    exact hone.parts_eq (Text.isTrimmed_intercalate _ (by simpa using T.names_ne_nil)
      (List.forall_mem_map.2 fun n _ => n.isTrimmed))
  trimmed := Text.isTrimmed_intercalate _ (by simpa using T.names_ne_nil)
    (List.forall_mem_map.2 fun n _ => n.isTrimmed)

theorem parts_nameText : parts (· == '.') T.nameText = T.names.map SpelledName.text :=
  parts_intercalate_of_onePart (by decide) (by decide) (by decide) (by decide)
    whole_nil.onePart (List.forall_mem_nil _) (List.forall_mem_map.2 fun n hn =>
      ⟨(T.held n hn).onePart fun _ hdot _ => beq_eq_false_iff_ne.2 hdot, n.isTrimmed⟩)

/-- The head ends where the name starts. -/
theorem tableHead?_text (rest : List Char) :
    tableHead? (T.front ++ T.head.text ++ (T.nameText ++ T.gap ++ '(' :: rest)) =
      some (T.nameText ++ T.gap ++ '(' :: rest) := by
  obtain ⟨n, ns, hnames⟩ := List.exists_cons_of_ne_nil T.names_ne_nil
  have hname : T.nameText = n.text ++ (ns.map SpelledName.text).flatMap (['.'] ++ ·) := by
    rw [nameText, hnames, List.map_cons, Text.intercalate_cons]
  have hif : keywords? ["IF", "NOT", "EXISTS"] (T.nameText ++ T.gap ++ '(' :: rest) = none := by
    rw [keywords?_in_front (by decide), hname, List.append_assoc, keywords?_name]
    · rfl
    · cases ns with
      | nil => exact .inr T.gap_blank
      | cons m ms => exact .inl ⟨_, rfl⟩
  have hstart : StartsAtOnce (T.nameText ++ T.gap ++ '(' :: rest) := by
    obtain ⟨c, cs, hcs, hc⟩ := T.isTableName.trimmed.first
    rw [hcs]
    exact Text.skipBlanks_of_head hc _
  rw [List.append_assoc]
  exact T.head.tableHead?_eq T.front_blank hstart hif

/-! ### The table -/

theorem parts_listText :
    parts (· == ',') T.listText = T.elements.map fun e => trim e.text := by
  have hlist : parts (· == ',') T.listText = (T.elements.map SpelledElement.text).map trim :=
    parts_joined (by decide) (by decide) (by decide) (by decide)
      (List.forall_mem_map.2 fun e _ => ⟨e.whole.onePart, e.trim_ne_nil⟩)
  rwa [List.map_map] at hlist

theorem front_commentless : Commentless (T.front ++ T.head.text) :=
  (commentless_code fun c hc => isCalm_of_isBlank (T.front_blank c hc)).append T.head.commentless

theorem listText_whole : Whole (fun _ => false) T.listText :=
  joinedColumns_whole (whole_plain (by decide)) (List.forall_mem_map.2 fun e _ => e.whole)

/-- Up to the end of its column list, a table is spelled without comments. -/
theorem withoutComments_text (h : T.behind = []) : withoutComments T.text = T.text := by
  have htext := T.isTableName.statement_commentless T.front_commentless T.gap_blank T.listText_whole
  unfold text
  rw [h, List.append_nil]
  exact htext.withoutComments_eq

/-- **A table is read part by part and element by element**, whatever stands behind its list. -/
theorem tableDeclared?_text :
    tableDeclared? T.text = some ⟨T.names.map (·.name),
      T.elements.filterMap fun e => columnOf? (trim e.text)⟩ := by
  have hread := T.isTableName.tableDeclared?_eq T.front_commentless T.gap_blank
    (T.tableHead?_text (T.listText ++ [')'])) T.listText_whole
  have hnames : (T.names.map SpelledName.text).map (fun t => String.ofList (unquoted t)) =
      T.names.map (·.name) := by
    rw [List.map_map]
    exact List.map_congr_left fun n _ => by simp [n.unquoted_text]
  rw [T.parts_nameText, hnames, T.parts_listText, List.filterMap_map] at hread
  exact tableDeclared?_append hread T.behind

/-- Comments are not read. -/
theorem tableDeclared?_eq {cs : List Char} (h : withoutComments cs = T.text) :
    tableDeclared? cs = some ⟨T.names.map (·.name),
      T.elements.filterMap fun e => columnOf? (trim e.text)⟩ := by
  have hcomments : tableDeclared? cs = tableDeclared? (withoutComments cs) := by
    unfold tableDeclared?
    rw [withoutComments_idem]
  rw [hcomments, h, T.tableDeclared?_text]

end SpelledTable

end Script
end SchemaMap
