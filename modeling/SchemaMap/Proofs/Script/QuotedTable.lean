/-
# Tables whose names are written in square brackets

In square brackets, a name is written with its closing brackets doubled. The reader of regions knows
no doubled brackets: to it, the first closing bracket ends the quotation, and what follows in the
name is code. So a name that holds a closing bracket is given back just where nothing in this code
cuts it: in the name of a table no dot, no white space and no opening parenthesis, in a column list no
comma and no white space outside of parentheses, and in neither a comment or a quotation that is left
open.

Key definitions: `Script.HoldsInName`, `Script.HoldsInList`, `Script.QuotedColumn`,
`Script.quotedTable`.
Key theorems: `Script.scans_of_closed`, `Script.columnOf?_quoted`, `Script.tableDeclared?_quoted`.
-/
import SchemaMap.Proofs.Script.JoinedTable
import SchemaMap.Proofs.Script.QuotedWord
import SchemaMap.Proofs.Script.Statements

namespace SchemaMap
namespace Script

open Text (isBlank isWord IsTrimmed doubled forall_mem_of_all)

/-! ### What is written -/

/-- A word that does not end the types of columns. -/
structure PlainType where
  word : List Char
  word_ne_nil : word ≠ []
  word_chars : ∀ c ∈ word, isWord c = true
  word_continues : ∀ w ∈ typeStopWords, Text.sameLetters w.toList word = false

/-- A column with its name and its type. -/
structure QuotedColumn where
  name : String
  type : PlainType

/-- A column as it is written. -/
def QuotedColumn.text (c : QuotedColumn) : List Char :=
  List.intercalate [' '] [bracketQuoted c.name.toList, c.type.word]

/-- What there is to read in a column. -/
def QuotedColumn.column (c : QuotedColumn) : Column :=
  ⟨c.name, some (String.ofList c.type.word)⟩

/-- The parts of a name with a dot between each two. -/
def quotedName (names : List String) : List Char :=
  List.intercalate ['.'] (names.map fun n => bracketQuoted n.toList)

/-- Columns with a comma and a blank between each two. -/
def quotedList (columns : List QuotedColumn) : List Char :=
  List.intercalate [',', ' '] (columns.map QuotedColumn.text)

/-- The statement that creates a table with the name parts `names` and the columns `columns`. -/
def quotedTable (names : List String) (columns : List QuotedColumn) : List Char :=
  "CREATE TABLE ".toList ++ (quotedName names ++ '(' :: (quotedList columns ++ [')']))

/-! ### Names that hold together -/

/-- Behind a text, the reader of regions is in code: a blank that follows is code. -/
def ClosedOff (t : List Char) : Prop :=
  (tagged (t ++ [' '])).getLast? = some (' ', .code)

instance (t : List Char) : Decidable (ClosedOff t) :=
  inferInstanceAs (Decidable (_ = _))

/-- In brackets, a name is one part of the name of a table. -/
structure HoldsInName (n : List Char) : Prop where
  closedOff : ClosedOff (bracketQuoted n)
  commentless : ∀ x ∈ tagged (bracketQuoted n), x.2 ≠ .comment
  plain : ∀ x ∈ tagged (bracketQuoted n), x.2 = .code →
    x.1 ≠ '(' ∧ x.1 ≠ '.' ∧ isBlank x.1 = false

/-- A comma or white space. -/
def endsColumnName (c : Char) : Bool :=
  c == ',' || isBlank c

/-- In brackets, a name is one word of an element of a column list. -/
structure HoldsInList (n : List Char) : Prop where
  closedOff : ClosedOff (bracketQuoted n)
  commentless : ∀ x ∈ tagged (bracketQuoted n), x.2 ≠ .comment
  unsplit : Unsplit endsColumnName 0 (tagged (bracketQuoted n)) 0

instance (n : List Char) : Decidable (HoldsInName n) :=
  decidable_of_iff (ClosedOff (bracketQuoted n) ∧
    (∀ x ∈ tagged (bracketQuoted n), x.2 ≠ .comment) ∧
      ∀ x ∈ tagged (bracketQuoted n), x.2 = .code → x.1 ≠ '(' ∧ x.1 ≠ '.' ∧ isBlank x.1 = false)
    ⟨fun ⟨h, hc, hp⟩ => ⟨h, hc, hp⟩, fun ⟨h, hc, hp⟩ => ⟨h, hc, hp⟩⟩

instance (n : List Char) : Decidable (HoldsInList n) :=
  decidable_of_iff (ClosedOff (bracketQuoted n) ∧
    (∀ x ∈ tagged (bracketQuoted n), x.2 ≠ .comment) ∧
      Unsplit endsColumnName 0 (tagged (bracketQuoted n)) 0)
    ⟨fun ⟨h, hc, hu⟩ => ⟨h, hc, hu⟩, fun ⟨h, hc, hu⟩ => ⟨h, hc, hu⟩⟩

/-! ### Regions of a name -/

theorem exists_reads (v : List Char) : ∀ (t : List Char) (m : Mark), ∃ g n, Reads v m t g n
  | [], m => ⟨[], m, .nil m⟩
  | c :: t, m => by
    obtain ⟨g, n, h⟩ := exists_reads v t (step m c (t ++ v)).2
    exact ⟨(c, (step m c (t ++ v)).1) :: g, n, .cons h⟩

/-- In front of a blank that is code, the reader is in code. -/
theorem ClosedOff.reads {t : List Char} (h : ClosedOff t) :
    ∃ g p, Reads [' '] (.code none) t g (.code p) := by
  obtain ⟨g, n, hread⟩ := exists_reads [' '] t (.code none)
  rw [ClosedOff, tagged, hread.mark_eq, List.getLast?_append] at h
  have hregion : (step n ' ' []).1 = .code := congrArg Prod.snd (Option.some.inj h)
  obtain ⟨⟨p, rfl⟩, -⟩ := code_of_region (hread.opened (.inl ⟨none, rfl⟩)) hregion (by decide)
  exact ⟨g, p, hread⟩

/-- A name that is closed off has the same regions wherever it stands in code. -/
theorem scans_of_closed {n : List Char} (h : ClosedOff (bracketQuoted n)) :
    Scans (bracketQuoted n) (tagged (bracketQuoted n)) := by
  obtain ⟨g, p, hread⟩ := h.reads
  have hended (w : List Char) : Reads w (.code none) (bracketQuoted n) g (.code p) :=
    hread.ended (t := '[' :: doubled ']' n) (by decide) (by decide) w
  have htagged : tagged (bracketQuoted n) = g := (hended []).tagged_eq
  intro q rest
  refine ⟨p, ?_⟩
  have hmark : mark (.code q) (bracketQuoted n ++ rest) =
      mark (.code none) (bracketQuoted n ++ rest) := rfl
  rw [hmark, (hended rest).mark_eq, htagged]

theorem isTrimmed_bracketQuoted (n : List Char) : IsTrimmed (bracketQuoted n) :=
  ⟨⟨'[', _, rfl, by decide⟩, ⟨'[' :: doubled ']' n, ']', rfl, by decide⟩⟩

/-- A name without a closing bracket is quoted from its first bracket to its last. -/
theorem tagged_bracketQuoted {n : List Char} (h : ']' ∉ n) :
    ClosedOff (bracketQuoted n) ∧ tagged (bracketQuoted n) = allIn .quoted (bracketQuoted n) := by
  have hscans : Scans (bracketQuoted n) (allIn .quoted (bracketQuoted n)) := by
    have hdoubled : doubled ']' n = n := Text.doubled_of_notMem h
    rw [bracketQuoted, hdoubled]
    exact scans_bracketed h
  refine ⟨?_, hscans.tagged_eq⟩
  obtain ⟨p, hp⟩ := hscans none [' ']
  have hblank : mark (.code p) [' '] = [(' ', .code)] := mark_isCalm (by decide) p []
  rw [ClosedOff, tagged, hp, hblank, List.getLast?_concat]

theorem holdsInName_of_notMem {n : List Char} (h : ']' ∉ n) : HoldsInName n := by
  obtain ⟨hclosed, htagged⟩ := tagged_bracketQuoted h
  refine ⟨hclosed, ?_, ?_⟩
  · rw [htagged]
    simp [allIn]
  · rw [htagged]
    simp [allIn]

theorem holdsInList_of_notMem {n : List Char} (h : ']' ∉ n) : HoldsInList n := by
  obtain ⟨hclosed, htagged⟩ := tagged_bracketQuoted h
  refine ⟨hclosed, ?_, ?_⟩
  · rw [htagged]
    simp [allIn]
  · rw [htagged]
    exact unsplit_quoted 0 _

theorem HoldsInList.whole {sep : Char → Bool} {n : List Char} (h : HoldsInList n)
    (hsep : ∀ c, sep c = true → endsColumnName c = true) : Whole sep (bracketQuoted n) :=
  ⟨_, scans_of_closed h.closedOff, h.unsplit.mono hsep, h.commentless⟩

theorem HoldsInName.flat {n : List Char} (h : HoldsInName n) : Flat (bracketQuoted n) := by
  refine ⟨_, scans_of_closed h.closedOff, fun x hx he => ?_⟩
  exact (h.plain x hx (by rw [he])).1 (by rw [he])

/-- Characters that are neither opening parentheses nor separators are part of one part. -/
theorem cutAt_append_of_plain {sep : Char → Bool} : ∀ {g : Tagged},
    (∀ x ∈ g, x.2 = .code → x.1 ≠ '(' ∧ sep x.1 = false) →
      ∀ {more : Tagged} {part : List Char} {ps : List (List Char)},
        cutAt sep 0 more = part :: ps → cutAt sep 0 (g ++ more) = (chars g ++ part) :: ps
  | [], _, _, _, _, hm => hm
  | x :: g, h, more, part, ps, hm => by
    obtain ⟨hx, hg⟩ := List.forall_mem_cons.1 h
    have hdepth : depthAfter x 0 = 0 := by
      unfold depthAfter
      split
      · rfl
      · rename_i hcode
        rw [ne_eq, not_not] at hcode
        rw [if_neg (hx hcode).1]
        split <;> rfl
    have hkept : (x.2 == .code && (0 : Nat) == 0 && x.1 != '(' && x.1 != ')' && sep x.1) = false := by
      by_cases hcode : x.2 = .code
      · simp [(hx hcode).2]
      · simp [hcode]
    have ih := cutAt_append_of_plain hg hm
    exact cutAt_cons hkept (by rw [hdepth]; exact ih)

theorem HoldsInName.onePart {sep : Char → Bool} {n : List Char} (h : HoldsInName n)
    (hsep : ∀ c, c ≠ '.' → isBlank c = false → sep c = false) :
    OnePart sep (bracketQuoted n) := by
  refine ⟨_, scans_of_closed h.closedOff, cutAt_append_of_plain fun x hx hcode => ?_⟩
  obtain ⟨ho, hdot, hblank⟩ := h.plain x hx hcode
  exact ⟨ho, hsep _ hdot hblank⟩

/-! ### Columns -/

theorem PlainType.whole {sep : Char → Bool} (hsep : ∀ c, isWord c = true → sep c = false)
    (t : PlainType) : Whole sep t.word :=
  whole_code (fun c hc => isCalm_of_class (by decide) (t.word_chars c hc)) fun c hc =>
    ⟨Text.ne_of_class (by decide) (t.word_chars c hc),
      Text.ne_of_class (by decide) (t.word_chars c hc), hsep c (t.word_chars c hc)⟩

theorem PlainType.isTrimmed (t : PlainType) : IsTrimmed t.word :=
  Text.isTrimmed_of_forall t.word_ne_nil fun c hc => Text.isBlank_of_isWord (t.word_chars c hc)

theorem PlainType.isOneOf_word (t : PlainType) : isOneOf typeStopWords t.word = false := by
  have htake : t.word.takeWhile (· != '(') = t.word :=
    List.takeWhile_eq_self_iff.2 fun c hc =>
      bne_iff_ne.2 (Text.ne_of_class (by decide) (t.word_chars c hc))
  unfold isOneOf
  rw [htake, List.any_eq_false.2 fun w hw => by simp [t.word_continues w hw], Bool.and_false]

theorem PlainType.withoutBrackets_word (t : PlainType) :
    Name.withoutBrackets t.word = t.word :=
  List.filter_eq_self.2 fun c hc => by
    simp [Text.ne_of_class (p := isWord) (d := '[') (by decide) (t.word_chars c hc),
      Text.ne_of_class (p := isWord) (d := ']') (by decide) (t.word_chars c hc)]

variable {c : QuotedColumn}

theorem QuotedColumn.words_isTrimmed (c : QuotedColumn) :
    ∀ w ∈ [bracketQuoted c.name.toList, c.type.word], IsTrimmed w :=
  List.forall_mem_cons.2
    ⟨isTrimmed_bracketQuoted _, List.forall_mem_singleton.2 c.type.isTrimmed⟩

theorem QuotedColumn.words_whole {sep : Char → Bool}
    (hsep : ∀ d, sep d = true → endsColumnName d = true)
    (hword : ∀ d, isWord d = true → sep d = false) (h : HoldsInList c.name.toList) :
    ∀ w ∈ [bracketQuoted c.name.toList, c.type.word], Whole sep w :=
  List.forall_mem_cons.2 ⟨h.whole hsep, List.forall_mem_singleton.2 (c.type.whole hword)⟩

theorem parts_isBlank_quoted (h : HoldsInList c.name.toList) :
    parts isBlank c.text = [bracketQuoted c.name.toList, c.type.word] := by
  have hwhole : ∀ w ∈ [bracketQuoted c.name.toList, c.type.word], Whole isBlank w :=
    QuotedColumn.words_whole (fun d hd => by rw [endsColumnName, hd, Bool.or_true])
      (fun d hd => Text.isBlank_of_isWord hd) h
  exact parts_intercalate (by decide) (by decide) (by decide) (by decide) whole_nil
    (List.forall_mem_nil _) fun w hw => ⟨hwhole w hw, c.words_isTrimmed w hw⟩

theorem QuotedColumn.isElement (h : HoldsInList c.name.toList) : IsElement c.text where
  whole := Text.intercalate_closed whole_nil Whole.append (whole_plain (by decide))
    (QuotedColumn.words_whole (fun d hd => by rw [endsColumnName, hd, Bool.true_or])
      (fun d hd => beq_eq_false_iff_ne.2 (Text.ne_of_class (by decide) hd)) h)
  trimmed := Text.isTrimmed_intercalate _ (List.cons_ne_nil _ _) c.words_isTrimmed

theorem isOneOf_bracket (ws : List String) (cs : List Char) : isOneOf ws ('[' :: cs) = false :=
  rfl

/-- A column whose name holds together is read back. -/
theorem columnOf?_quoted (h : HoldsInList c.name.toList) : columnOf? c.text = some c.column := by
  have hfirst : isOneOf elementWords (bracketQuoted c.name.toList) = false := isOneOf_bracket _ _
  have htake : [c.type.word].takeWhile (fun t => !isOneOf typeStopWords t) = [c.type.word] :=
    List.takeWhile_cons_of_pos (by simp [c.type.isOneOf_word])
  have htype : Name.withoutBrackets (typeText [c.type.word]) = c.type.word :=
    c.type.withoutBrackets_word
  unfold columnOf? columnOfWords?
  rw [parts_isBlank_quoted h]
  simp only [hfirst, Bool.false_eq_true, if_false, htake, htype, unquoted_bracketQuoted,
    String.ofList_toList]
  rfl

/-! ### Tables -/

section Tables

variable {names : List String}

theorem parts_dot_quoted (h : ∀ n ∈ names, HoldsInName n.toList) :
    parts (· == '.') (quotedName names) = names.map fun n => bracketQuoted n.toList :=
  parts_intercalate_of_onePart (by decide) (by decide) (by decide) (by decide)
    whole_nil.onePart (List.forall_mem_nil _) (List.forall_mem_map.2 fun n hn =>
      ⟨(h n hn).onePart fun d hdot _ => beq_eq_false_iff_ne.2 hdot, isTrimmed_bracketQuoted _⟩)

theorem isTableName_quoted (hne : names ≠ []) (h : ∀ n ∈ names, HoldsInName n.toList) :
    IsTableName (quotedName names) where
  flat := Text.intercalate_closed flat_nil Flat.append (flat_plain (by decide))
    (List.forall_mem_map.2 fun n hn => (h n hn).flat)
  commentless := Text.intercalate_closed commentless_nil Commentless.append
    (commentless_code (forall_mem_of_all (by decide)))
    (List.forall_mem_map.2 fun n hn => ⟨_, scans_of_closed (h n hn).closedOff, (h n hn).commentless⟩)
  one := by
    have hone : OnePart isBlank (quotedName names) :=
      Text.intercalate_closed whole_nil.onePart OnePart.append (whole_plain (by decide)).onePart
        (List.forall_mem_map.2 fun n hn => (h n hn).onePart fun _ _ hblank => hblank)
    exact hone.parts_eq (Text.isTrimmed_intercalate _ (by simpa using hne)
      (List.forall_mem_map.2 fun n _ => isTrimmed_bracketQuoted _))
  trimmed := Text.isTrimmed_intercalate _ (by simpa using hne)
    (List.forall_mem_map.2 fun n _ => isTrimmed_bracketQuoted _)

/-- The words in front of the name end at its first bracket. -/
theorem tableHead?_quotedName (hne : names ≠ []) (rest : List Char) :
    tableHead? ("CREATE TABLE ".toList ++ (quotedName names ++ [] ++ rest)) =
      some (quotedName names ++ [] ++ rest) := by
  obtain ⟨n, ns, rfl⟩ := List.exists_cons_of_ne_nil hne
  cases ns <;> rfl

/-- **Names in square brackets that hold together are read back**, with the columns in order. -/
theorem tableDeclared?_quoted {columns : List QuotedColumn} (hne : names ≠ [])
    (hnames : ∀ n ∈ names, HoldsInName n.toList)
    (hcolumns : ∀ c ∈ columns, HoldsInList c.name.toList) :
    tableDeclared? (quotedTable names columns) =
      some ⟨names, columns.map QuotedColumn.column⟩ := by
  have helements : ∀ t ∈ columns.map QuotedColumn.text, IsElement t :=
    List.forall_mem_map.2 fun c hc => QuotedColumn.isElement (hcolumns c hc)
  have hwords : Commentless "CREATE TABLE ".toList :=
    commentless_code (forall_mem_of_all (by decide))
  have hwhole : Whole (fun _ => false) (quotedList columns) :=
    joinedColumns_whole (whole_plain (by decide)) fun t ht => (helements t ht).whole
  have hread := (isTableName_quoted hne hnames).tableDeclared?_eq hwords (List.forall_mem_nil _)
    (tableHead?_quotedName hne _) hwhole
  have hparts : (names.map fun n => bracketQuoted n.toList).map (fun t => String.ofList (unquoted t))
      = names := by
    rw [List.map_map]
    conv_rhs => rw [← List.map_id names]
    exact List.map_congr_left fun n _ => by simp [unquoted_bracketQuoted]
  have hlist : (columns.map QuotedColumn.text).filterMap columnOf? =
      columns.map QuotedColumn.column := by
    rw [List.filterMap_map, ← List.filterMap_eq_map]
    exact List.filterMap_congr fun c hc => columnOf?_quoted (hcolumns c hc)
  rw [parts_dot_quoted hnames, quotedList, parts_comma_joined helements, hparts, hlist,
    List.append_nil] at hread
  exact hread

end Tables

end Script
end SchemaMap
