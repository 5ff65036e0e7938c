/-
# Tables read back from the text they are written in

A `CREATE TABLE` is written with its names between double or back quotes, the quotes in them
doubled, with types that are a word and perhaps arguments in parentheses, and with string
literals as defaults. The reader is given the table back, whatever the names and the literals
hold: to it they are quotations, which no separator, parenthesis, comment mark or keyword inside
cuts. A type keeps its text, with the white space between its arguments.

Key definitions: `Script.WrittenName`, `Script.WrittenType`, `Script.WrittenColumn`,
`Script.writtenTable`.
Key theorems: `Script.parts_isBlank_column`, `Script.columnOf?_written`,
`Script.tableDeclared?_written`.
-/
import SchemaMap.Proofs.Script.Parts

namespace SchemaMap
namespace Script

open Text (isBlank isAsciiLetter isAsciiDigit sameLetters quotation IsTrimmed
  forall_mem_of_all)

variable {sep : Char → Bool}

/-! ### What is written -/

/-- The mark at the two ends of a name. -/
inductive NameQuote where
  | double
  | back
deriving DecidableEq, Repr

/-- The character of a mark. -/
def NameQuote.char : NameQuote → Char
  | .double => '"'
  | .back => '`'

/-- A name, which may be any text, and the mark it is written in. -/
structure WrittenName where
  quote : NameQuote
  name : String
deriving DecidableEq, Repr

/-- A name between its marks, those inside doubled. -/
def WrittenName.text (n : WrittenName) : List Char :=
  quotation n.quote.char n.name.toList

/-- A character of a type. -/
def isTypeChar (c : Char) : Bool :=
  isAsciiLetter c || isAsciiDigit c || c == '_'

/-- A character of an argument of a type: a word, or a number with its decimal point. -/
def isArgumentChar (c : Char) : Bool :=
  isTypeChar c || c == '.'

/-- An argument of a type: white space, a sign perhaps, and a word or number. -/
structure TypeArgument where
  gap : List Char
  negative : Bool
  word : List Char
  gap_blank : ∀ c ∈ gap, isBlank c = true
  word_ne_nil : word ≠ []
  word_chars : ∀ c ∈ word, isArgumentChar c = true

/-- An argument as it is written. -/
def TypeArgument.text (a : TypeArgument) : List Char :=
  a.gap ++ (if a.negative then '-' :: a.word else a.word)

/-- A type: a word that does not end the types of columns, and perhaps a list of arguments right
behind it. -/
structure WrittenType where
  word : List Char
  arguments : Option (List TypeArgument)
  word_letter : ∃ c rest, word = c :: rest ∧ isAsciiLetter c = true
  word_chars : ∀ c ∈ word, isTypeChar c = true
  word_continues : ∀ w ∈ typeStopWords, sameLetters w.toList word = false

/-- The arguments of a type in parentheses. -/
def argumentsText : Option (List TypeArgument) → List Char
  | none => []
  | some args => '(' :: (List.intercalate [','] (args.map TypeArgument.text) ++ [')'])

/-- A type as it is written. -/
def WrittenType.text (t : WrittenType) : List Char :=
  t.word ++ argumentsText t.arguments

/-- A column with its name, its type, and perhaps a text that it defaults to. -/
structure WrittenColumn where
  name : WrittenName
  type : WrittenType
  fallback : Option String

/-- The words that a column is written in. -/
def WrittenColumn.words (c : WrittenColumn) : List (List Char) :=
  c.name.text :: c.type.text :: match c.fallback with
    | none => []
    | some s => ["DEFAULT".toList, quotation '\'' s.toList]

/-- A column as it is written. -/
def WrittenColumn.text (c : WrittenColumn) : List Char :=
  List.intercalate [' '] c.words

/-- What there is to read in a column. -/
def WrittenColumn.column (c : WrittenColumn) : Column :=
  ⟨c.name.name, some (String.ofList c.type.text)⟩

/-- Name parts with a dot between each two. -/
def namesText (names : List WrittenName) : List Char :=
  List.intercalate ['.'] (names.map WrittenName.text)

/-- Columns with a comma and a blank between each two. -/
def columnsText (columns : List WrittenColumn) : List Char :=
  List.intercalate [',', ' '] (columns.map WrittenColumn.text)

/-- The statement that creates a table with the name parts `names` and the columns `columns`. -/
def writtenTable (names : List WrittenName) (columns : List WrittenColumn) : List Char :=
  "CREATE TABLE ".toList ++ (namesText names ++ [' '] ++ '(' :: (columnsText columns ++ [')']))

/-! ### Names -/

theorem WrittenName.isQuote (n : WrittenName) : IsQuote n.quote.char := by
  cases n.quote <;> simp [IsQuote, NameQuote.char]

theorem WrittenName.whole (n : WrittenName) : Whole sep n.text :=
  whole_quotation n.isQuote _

theorem WrittenName.isTrimmed (n : WrittenName) : IsTrimmed n.text :=
  Text.isTrimmed_quotation (by cases n.quote <;> decide) _

/-- A name is read without its marks. -/
theorem WrittenName.unquoted_text (n : WrittenName) : unquoted n.text = n.name.toList := by
  obtain ⟨quote, name⟩ := n
  cases quote <;>
    simp [WrittenName.text, NameQuote.char, quotation, unquoted, between?, Text.char?,
      Text.undouble_doubled]

/-- A quoted name is no keyword. -/
theorem WrittenName.isOneOf_text (n : WrittenName) (ws : List String) :
    isOneOf ws n.text = false := by
  obtain ⟨quote, name⟩ := n
  cases quote <;> simp [WrittenName.text, NameQuote.char, quotation, isOneOf, isQuotedWord]

/-! ### Types -/

/-- The characters of a class that has no mark of quotations, comments or parentheses. -/
theorem whole_of_class {p : Char → Bool}
    (hp : openers.any p = false) (ho : p '(' = false) (hc : p ')' = false) {t : List Char}
    (h : ∀ c ∈ t, p c = true) (hsep : ∀ c ∈ t, sep c = false) : Whole sep t :=
  whole_code (fun c hm => isCalm_of_class hp (h c hm)) fun c hm =>
    ⟨Text.ne_of_class ho (h c hm), Text.ne_of_class hc (h c hm), hsep c hm⟩

theorem TypeArgument.whole (a : TypeArgument) : Whole (fun _ => false) a.text := by
  have hgap : Whole (fun _ => false) a.gap :=
    whole_of_class rfl rfl rfl a.gap_blank fun _ _ => rfl
  refine hgap.append ?_
  by_cases hneg : a.negative = true
  · rw [if_pos hneg]
    refine whole_dash a.word_ne_nil (fun c hc => ?_) fun c hc => ?_
    · exact isCalm_of_class rfl (a.word_chars c hc)
    · rcases List.mem_cons.1 hc with rfl | hc
      · decide
      · have hword := a.word_chars c hc
        exact ⟨Text.ne_of_class rfl hword, Text.ne_of_class rfl hword, rfl⟩
  · rw [if_neg hneg]
    exact whole_of_class rfl rfl rfl a.word_chars fun _ _ => rfl

theorem whole_argumentsText : ∀ args : Option (List TypeArgument), Whole sep (argumentsText args)
  | none => whole_nil
  | some args => by
    refine Whole.parenthesised (Text.intercalate_closed (P := Whole fun _ => false) whole_nil
      Whole.append (whole_plain (by decide)) fun t ht => ?_)
    obtain ⟨a, -, rfl⟩ := List.mem_map.1 ht
    exact a.whole

/-- A type is one part for separators that do not stand in words. -/
theorem WrittenType.whole (hsep : ∀ c, isTypeChar c = true → sep c = false) (t : WrittenType) :
    Whole sep t.text :=
  (whole_of_class rfl rfl rfl t.word_chars fun c hc => hsep c (t.word_chars c hc)).append
    (whole_argumentsText t.arguments)

theorem toNat_of_isTypeChar {c : Char} (h : isTypeChar c = true) :
    48 ≤ c.toNat ∧ c.toNat ≤ 122 := by
  simp only [isTypeChar, Bool.or_eq_true, beq_iff_eq] at h
  rcases h with (h | h) | rfl
  · have := Text.toNat_of_isAsciiLetter h
    omega
  · have := Text.toNat_of_isAsciiDigit h
    omega
  · decide

theorem isBlank_of_isTypeChar {c : Char} (h : isTypeChar c = true) : isBlank c = false := by
  have := toNat_of_isTypeChar h
  exact Text.isBlank_of_toNat (by omega) (by omega)

theorem WrittenType.isTrimmed (t : WrittenType) : IsTrimmed t.text := by
  have hword : IsTrimmed t.word := by
    obtain ⟨c, rest, hw, -⟩ := t.word_letter
    exact Text.isTrimmed_of_forall (by simp [hw]) fun d hd =>
      isBlank_of_isTypeChar (t.word_chars d hd)
  unfold WrittenType.text
  cases t.arguments with
  | none => simpa [argumentsText] using hword
  | some args =>
    have hclose : IsTrimmed [')'] :=
      Text.isTrimmed_of_forall (List.cons_ne_nil _ _) (forall_mem_of_all (by decide))
    have h := hword.append_between hclose
      ('(' :: List.intercalate [','] (args.map TypeArgument.text))
    rwa [List.append_assoc] at h

/-- A type is not taken for a word that ends it. -/
theorem WrittenType.isOneOf_text (t : WrittenType) : isOneOf typeStopWords t.text = false := by
  have htake : t.text.takeWhile (· != '(') = t.word := by
    have hword : ∀ c ∈ t.word, (c != '(') = true := fun c hc =>
      bne_iff_ne.2 (Text.ne_of_class rfl (t.word_chars c hc))
    unfold WrittenType.text
    rw [List.takeWhile_append_of_pos hword]
    cases t.arguments <;> simp [argumentsText]
  unfold isOneOf
  rw [htake, List.any_eq_false.2 fun w hw => by simp [t.word_continues w hw], Bool.and_false]

/-- A text without square brackets. -/
def Unbracketed (t : List Char) : Prop :=
  ∀ c ∈ t, (c != '[' && c != ']') = true

theorem Unbracketed.append {t u : List Char} (ht : Unbracketed t) (hu : Unbracketed u) :
    Unbracketed (t ++ u) :=
  List.forall_mem_append.2 ⟨ht, hu⟩

theorem unbracketed_of_class {p : Char → Bool} (hopen : p '[' = false) (hclose : p ']' = false)
    {t : List Char} (h : ∀ c ∈ t, p c = true) : Unbracketed t := fun c hc => by
  simp [Text.ne_of_class hopen (h c hc), Text.ne_of_class hclose (h c hc)]

theorem TypeArgument.unbracketed (a : TypeArgument) : Unbracketed a.text := by
  have hgap : Unbracketed a.gap := unbracketed_of_class rfl rfl a.gap_blank
  have hword : Unbracketed a.word := unbracketed_of_class rfl rfl a.word_chars
  refine hgap.append ?_
  split
  · exact List.forall_mem_cons.2 ⟨by decide, hword⟩
  · exact hword

theorem unbracketed_argumentsText : ∀ args : Option (List TypeArgument),
    Unbracketed (argumentsText args)
  | none => List.forall_mem_nil _
  | some args => by
    have hjoined : Unbracketed (List.intercalate [','] (args.map TypeArgument.text)) :=
      Text.intercalate_closed (List.forall_mem_nil _) Unbracketed.append
        (forall_mem_of_all (by decide)) (List.forall_mem_map.2 fun a _ => a.unbracketed)
    have hclose : Unbracketed [')'] := forall_mem_of_all (by decide)
    exact List.forall_mem_cons.2 ⟨by decide, hjoined.append hclose⟩

/-- A type is kept as it is where square brackets are dropped. -/
theorem WrittenType.withoutBrackets_text (t : WrittenType) :
    Name.withoutBrackets t.text = t.text := by
  have hword : Unbracketed t.word := unbracketed_of_class rfl rfl t.word_chars
  exact List.filter_eq_self.2 (hword.append (unbracketed_argumentsText t.arguments))

/-! ### Columns -/

/-- The word that a default stands behind. -/
theorem isOneOf_default : isOneOf typeStopWords "DEFAULT".toList = true := by
  decide

/-- What holds of a name, a type, the word `DEFAULT` and every literal holds of the words of a
column. -/
theorem WrittenColumn.forall_mem_words {P : List Char → Prop} (c : WrittenColumn)
    (hname : P c.name.text) (htype : P c.type.text) (hdefault : P "DEFAULT".toList)
    (hliteral : ∀ s, P (quotation '\'' s)) : ∀ w ∈ c.words, P w := by
  refine List.forall_mem_cons.2 ⟨hname, List.forall_mem_cons.2 ⟨htype, ?_⟩⟩
  cases c.fallback with
  | none => exact List.forall_mem_nil _
  | some s =>
    exact List.forall_mem_cons.2 ⟨hdefault, List.forall_mem_singleton.2 (hliteral s.toList)⟩

theorem WrittenColumn.words_isTrimmed (c : WrittenColumn) : ∀ w ∈ c.words, IsTrimmed w := by
  have hdefault : IsTrimmed "DEFAULT".toList :=
    Text.isTrimmed_of_forall (by decide) (forall_mem_of_all (by decide))
  exact c.forall_mem_words c.name.isTrimmed c.type.isTrimmed hdefault
    (Text.isTrimmed_quotation (by decide))

/-- The words of a column are one part each for separators that do not stand in words. -/
theorem WrittenColumn.words_whole (hsep : ∀ c, isTypeChar c = true → sep c = false)
    (c : WrittenColumn) : ∀ w ∈ c.words, Whole sep w := by
  have hletters : ∀ d ∈ "DEFAULT".toList, isTypeChar d = true := forall_mem_of_all (by decide)
  have hdefault : Whole sep "DEFAULT".toList :=
    whole_of_class rfl rfl rfl hletters fun d hd => hsep d (hletters d hd)
  exact c.forall_mem_words c.name.whole (c.type.whole hsep) hdefault
    (whole_quotation (.inr (.inr rfl)))

theorem parts_isBlank_column (c : WrittenColumn) : parts isBlank c.text = c.words := by
  have hw : ∀ w ∈ c.words, Whole isBlank w := c.words_whole fun _ hd => isBlank_of_isTypeChar hd
  exact parts_intercalate (by decide) (by decide) (by decide) (by decide) whole_nil
    (List.forall_mem_nil _) fun w hm => ⟨hw w hm, c.words_isTrimmed w hm⟩

theorem WrittenColumn.isTrimmed (c : WrittenColumn) : IsTrimmed c.text :=
  Text.isTrimmed_intercalate _ (List.cons_ne_nil _ _) c.words_isTrimmed

/-- A column is one part for separators that are no white space and do not stand in words. -/
theorem WrittenColumn.whole (hblank : isPlain sep ' ' = true)
    (hsep : ∀ c, isTypeChar c = true → sep c = false) (c : WrittenColumn) : Whole sep c.text :=
  Text.intercalate_closed whole_nil Whole.append (whole_plain (by simpa using hblank))
    (c.words_whole hsep)

/-- A column is read back with its name and its type; the default ends the type. -/
theorem columnOf?_written (c : WrittenColumn) : columnOf? c.text = some c.column := by
  have htake : c.words.tail.takeWhile (fun t => !isOneOf typeStopWords t) = [c.type.text] := by
    unfold WrittenColumn.words
    rw [List.tail_cons, List.takeWhile_cons_of_pos (by simp [c.type.isOneOf_text])]
    cases c.fallback with
    | none => rfl
    | some s => exact congrArg _ (List.takeWhile_cons_of_neg (by rw [isOneOf_default]; decide))
  have hbrackets : Name.withoutBrackets (typeText [c.type.text]) = c.type.text :=
    c.type.withoutBrackets_text
  have hname : String.ofList (unquoted c.name.text) = c.name.name := by
    rw [c.name.unquoted_text, String.ofList_toList]
  unfold columnOf? columnOfWords?
  rw [parts_isBlank_column, WrittenColumn.words]
  rw [WrittenColumn.words, List.tail_cons] at htake
  simp only [c.name.isOneOf_text, Bool.false_eq_true, if_false, htake, hbrackets, hname]
  rfl

/-! ### Tables -/

theorem namesText_isTrimmed {names : List WrittenName} (h : names ≠ []) :
    IsTrimmed (namesText names) :=
  Text.isTrimmed_intercalate _ (by simpa using h) (List.forall_mem_map.2 fun n _ => n.isTrimmed)

theorem namesText_whole (hdot : isPlain sep '.' = true) (names : List WrittenName) :
    Whole sep (namesText names) :=
  Text.intercalate_closed whole_nil Whole.append (whole_plain (by simpa using hdot))
    (List.forall_mem_map.2 fun n _ => n.whole)

theorem namesText_flat (names : List WrittenName) : Flat (namesText names) :=
  Text.intercalate_closed flat_nil Flat.append (flat_plain (by decide))
    (List.forall_mem_map.2 fun n _ => flat_quotation n.isQuote _)

theorem parts_dot_names (names : List WrittenName) :
    parts (· == '.') (namesText names) = names.map WrittenName.text :=
  parts_intercalate (by decide) (by decide) (by decide) (by decide) whole_nil
    (List.forall_mem_nil _) (List.forall_mem_map.2 fun n _ => ⟨n.whole, n.isTrimmed⟩)

theorem columnsText_whole (columns : List WrittenColumn) :
    Whole (fun _ => false) (columnsText columns) :=
  Text.intercalate_closed whole_nil Whole.append (whole_plain (by decide))
    (List.forall_mem_map.2 fun c _ => c.whole rfl fun _ _ => rfl)

theorem parts_comma_columns (columns : List WrittenColumn) :
    parts (· == ',') (columnsText columns) = columns.map WrittenColumn.text := by
  have hsep : ∀ c, isTypeChar c = true → (c == ',') = false := fun c hc =>
    beq_eq_false_iff_ne.2 (Text.ne_of_class rfl hc)
  exact parts_intercalate (by decide) (by decide) (by decide) (by decide)
    (whole_plain (by decide)) (forall_mem_of_all (by decide))
    (List.forall_mem_map.2 fun c _ => ⟨c.whole (by decide) hsep, c.isTrimmed⟩)

theorem withoutComments_writtenTable (names : List WrittenName) (columns : List WrittenColumn) :
    withoutComments (writtenTable names columns) = writtenTable names columns := by
  have hword : Whole (fun _ => false) "CREATE TABLE ".toList := whole_plain (by decide)
  have hblank : Whole (fun _ => false) [' '] := whole_plain (by decide)
  have hnames : Whole (fun _ => false) (namesText names) := namesText_whole rfl names
  have hbody : Whole (fun _ => false) ('(' :: (columnsText columns ++ [')'])) :=
    (columnsText_whole columns).parenthesised
  exact (hword.append ((hnames.append hblank).append hbody)).withoutComments_eq

/-- The head of the statement ends at the mark that the name starts with. -/
theorem tableHead?_writtenTable {names : List WrittenName} (h : names ≠ [])
    (columns : List WrittenColumn) :
    tableHead? (writtenTable names columns) =
      some (namesText names ++ [' '] ++ '(' :: (columnsText columns ++ [')'])) := by
  obtain ⟨n, ns, rfl⟩ := List.exists_cons_of_ne_nil h
  have hmark : ∃ rest, namesText (n :: ns) = n.quote.char :: rest := by
    cases ns <;> exact ⟨_, rfl⟩
  obtain ⟨rest, hrest⟩ := hmark
  unfold writtenTable
  rw [hrest]
  cases n.quote <;> rfl

/-- **Reading undoes writing.** The table that a statement was written for is read from it: the
parts of its name, and its columns with their types, in order and character by character. -/
theorem tableDeclared?_written (names : List WrittenName) (columns : List WrittenColumn)
    (h : names ≠ []) :
    tableDeclared? (writtenTable names columns) =
      some ⟨names.map (·.name), columns.map WrittenColumn.column⟩ := by
  have hflat : Flat (namesText names ++ [' ']) :=
    (namesText_flat names).append (flat_plain (by decide))
  have hsplit := hflat.splitAtOpen?_eq (columnsText columns ++ [')'])
  have hname : Text.trim (namesText names ++ [' ']) = namesText names :=
    (namesText_isTrimmed h).trim_before (forall_mem_of_all (by decide))
  have hone : parts isBlank (namesText names) = [namesText names] :=
    (namesText_whole (by decide) names).parts_eq (namesText_isTrimmed h)
  have hbody := (columnsText_whole columns).bodyUpToClose?_eq (some '(') []
  have hnames : (names.map WrittenName.text).map (fun p => String.ofList (unquoted p)) =
      names.map (·.name) := by
    rw [List.map_map]
    exact List.map_congr_left fun n _ => by simp [n.unquoted_text]
  have hcolumns : (columns.map WrittenColumn.text).filterMap columnOf? =
      columns.map WrittenColumn.column := by
    rw [List.filterMap_map, funext columnOf?_written (f := columnOf? ∘ WrittenColumn.text)]
    exact congrFun List.filterMap_eq_map columns
  unfold tableDeclared?
  rw [withoutComments_writtenTable]
  refine Option.bind_eq_some_iff.2 ⟨_, tableHead?_writtenTable h columns, ?_⟩
  refine Option.bind_eq_some_iff.2 ⟨_, hsplit, ?_⟩
  refine Option.bind_eq_some_iff.2 ⟨(), if_pos (by rw [hname, hone]; rfl), ?_⟩
  refine Option.bind_eq_some_iff.2 ⟨_, hbody, ?_⟩
  rw [hname, parts_dot_names, parts_comma_columns, hnames, hcolumns]
  rfl

/-- A type with two arguments, one of them negative and behind a blank. -/
def numericType : WrittenType where
  word := "numeric".toList
  arguments := some [
    { gap := [], negative := false, word := "10".toList, word_ne_nil := by decide
      gap_blank := forall_mem_of_all (by decide), word_chars := forall_mem_of_all (by decide) },
    { gap := [' '], negative := true, word := "2".toList, word_ne_nil := by decide
      gap_blank := forall_mem_of_all (by decide), word_chars := forall_mem_of_all (by decide) }]
  word_letter := ⟨'n', "umeric".toList, by decide⟩
  word_chars := forall_mem_of_all (by decide)
  word_continues := forall_mem_of_all (by decide)

/-- A type without arguments. -/
def textType : WrittenType where
  word := "text".toList
  arguments := none
  word_letter := ⟨'t', "ext".toList, by decide⟩
  word_chars := forall_mem_of_all (by decide)
  word_continues := forall_mem_of_all (by decide)

/-- Names and a default with a dot, commas, parentheses, a line break, comment marks, a dollar
tag, square brackets, doubled marks and keywords in them. -/
theorem tableDeclared?_marks :
    [WrittenName.mk .double "a.b\" (", .mk .back "--`/* $x$"] ≠ [] ∧
    tableDeclared? ("CREATE TABLE \"a.b\"\" (\".`--``/* $x$` (".toList
        ++ "\"NOT NULL,\n]\" numeric(10, -2), `` text DEFAULT 'it''s; [\"')".toList) =
      some ⟨["a.b\" (", "--`/* $x$"],
        [⟨"NOT NULL,\n]", some "numeric(10, -2)"⟩, ⟨"", some "text"⟩]⟩ :=
  ⟨by decide, tableDeclared?_written
    [.mk .double "a.b\" (", .mk .back "--`/* $x$"]
    [⟨.mk .double "NOT NULL,\n]", numericType, none⟩, ⟨.mk .back "", textType, some "it's; [\""⟩]
    (by decide)⟩

end Script
end SchemaMap
