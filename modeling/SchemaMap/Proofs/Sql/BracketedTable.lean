/-
# Tables written between square brackets, read by grammar

The text of a table between square brackets is cut into its lexemes, and the grammar takes their
tokens as one statement. A bracket ends a name for the grammar, whatever stands behind it, so a type
that adjoins the name of its column is a type like any other.

Key definitions: `Sql.tableLexemes`.
Key theorems: `Sql.parse_bracketed`.
-/
import SchemaMap.Proofs.Sql.Lexer
import SchemaMap.Proofs.Sql.TableRule
import SchemaMap.Sql.Statement

namespace SchemaMap
namespace Sql

open Script (BracketedName BracketedColumn bracketedTable nullWords)

variable {rest : List Char} {n : BracketedName} {names : List BracketedName} {c : BracketedColumn}
  {columns : List BracketedColumn}

/-! ### The statement of the tokens -/

@[simp] theorem tokensOf_leaves (ts : List Token) : tokensOf (ts.map Tree.leaf) = ts := by
  induction ts with
  | nil => rfl
  | cons t ts ih => simp [tokensOf, ih]

/-- The column that the tokens of a column declare. -/
def declaredColumn (c : BracketedColumn) : Column :=
  ⟨c.name.name, some ("[" ++ c.type.name ++ "]")⟩

theorem typeText_bracket (n : BracketedName) :
    typeText .tsql (.node .type [.leaf (bracketToken n)]) = "[" ++ n.name ++ "]" := by
  have hnamed : typeText .tsql (.node .type [.leaf (bracketToken n)]) =
      namedTypeText [bracketToken n] := rfl
  rw [hnamed]
  simp [namedTypeText, bracketToken, nameText, namePartText, modifiers, String.join]

theorem columnOfTree?_columnTree (c : BracketedColumn) :
    columnOfTree? .tsql (columnTree c) = some (declaredColumn c) := by
  rw [declaredColumn, ← typeText_bracket c.type]
  rfl

theorem nameParts_tableTree :
    nameParts (.node .name (.leaf (bracketToken n) :: (nameTail names).map Tree.leaf)
      :: columnTrees c columns) = (n :: names).map (·.name) := by
  have hleaves := tokensOf_leaves (bracketToken n :: nameTail names)
  have htail : (nameTail names).filterMap namePart? = names.map (·.name) := by
    rw [nameTail, List.filterMap_flatMap, List.map_eq_flatMap]
    rfl
  rw [List.map_cons, ← htail]
  exact congrArg (List.filterMap namePart?) hleaves

theorem filterMap_columnTrees :
    (columnTrees c columns).filterMap (columnOfTree? .tsql) =
      (c :: columns).map declaredColumn := by
  have helement (d : BracketedColumn) : [.leaf (.symbol ","), columnTree d].filterMap
      (columnOfTree? .tsql) = [declaredColumn d] :=
    List.filterMap_cons_some (columnOfTree?_columnTree d)
  have htail : (columns.flatMap fun d => [.leaf (.symbol ","), columnTree d]).filterMap
      (columnOfTree? .tsql) = columns.map declaredColumn := by
    rw [List.filterMap_flatMap, List.map_eq_flatMap, funext helement]
  have hlast : [Tree.leaf (.symbol ")")].filterMap (columnOfTree? .tsql) = [] := rfl
  rw [columnTrees, List.filterMap_cons_none rfl,
    List.filterMap_cons_some (columnOfTree?_columnTree c), List.filterMap_append, htail, hlast,
    List.append_nil, List.map_cons]

theorem statement_tableTree :
    Statement.ofTree? .tsql (.node .statement [.leaf (.bare "CREATE".toList),
      .leaf (.bare "TABLE".toList), tableTree n names c columns]) =
      some (.createTable ((n :: names).map (·.name)) ((c :: columns).map declaredColumn)) := by
  rw [← nameParts_tableTree, ← filterMap_columnTrees]
  rfl

/-! ### The lexemes -/

/-- A blank. -/
def blank : Spelled := ⟨[' '], none⟩

/-- A word without quotes. -/
def bare (w : List Char) : Spelled := ⟨w, some (.bare w)⟩

/-- A symbol of one character. -/
def mark (c : Char) : Spelled := ⟨[c], some (.symbol c.toString)⟩

/-- A word between square brackets. -/
def bracketed (n : BracketedName) : Spelled := ⟨n.text, some (bracketToken n)⟩

/-- The lexemes that tell whether a column may be empty. -/
def nullLexemes (nullable : Option Bool) : List Spelled :=
  (nullWords nullable).flatMap fun w => [blank, bare w]

/-- The lexemes of a column. -/
def columnLexemes (c : BracketedColumn) : List Spelled :=
  bracketed c.name :: ((if c.adjoining then [] else [blank]) ++
    bracketed c.type :: nullLexemes c.nullable)

/-- The lexemes of a name behind its first part. -/
def nameTailLexemes (names : List BracketedName) : List Spelled :=
  names.flatMap fun n => [mark '.', bracketed n]

/-- The lexemes of a column list behind its first column. -/
def columnTailLexemes (columns : List BracketedColumn) : List Spelled :=
  columns.flatMap fun c => mark ',' :: blank :: columnLexemes c

/-- The lexemes of a table: its name and its columns. -/
def tableLexemes (n : BracketedName) (names : List BracketedName) (c : BracketedColumn)
    (columns : List BracketedColumn) : List Spelled :=
  bracketed n :: (nameTailLexemes names ++ blank :: mark '(' ::
    (columnLexemes c ++ (columnTailLexemes columns ++ [mark ')'])))

/-- The lexemes of the statement that creates a table. -/
def statementLexemes (n : BracketedName) (names : List BracketedName) (c : BracketedColumn)
    (columns : List BracketedColumn) : List Spelled :=
  bare "CREATE".toList :: blank :: bare "TABLE".toList :: blank :: tableLexemes n names c columns

/-! ### Their texts -/

theorem spelledText_columnLexemes (c : BracketedColumn) :
    spelledText (columnLexemes c) = c.text := by
  rcases c with ⟨name, type, _ | _, _ | _ | _⟩
  all_goals simp [columnLexemes, nullLexemes, BracketedColumn.text, BracketedColumn.behind,
    nullWords, bracketed, blank, bare]

theorem spelledText_nameTail (n : BracketedName) :
    n.text ++ spelledText (nameTailLexemes names) =
      List.intercalate ['.'] ((n :: names).map BracketedName.text) := by
  have hpart (m : BracketedName) : spelledText [mark '.', bracketed m] = ['.'] ++ m.text := by
    simp [mark, bracketed]
  rw [nameTailLexemes, spelledText_flatMap, funext hpart, List.map_cons, Text.intercalate_cons,
    List.flatMap_map]

theorem spelledText_columnTail (c : BracketedColumn) :
    c.text ++ spelledText (columnTailLexemes columns) =
      List.intercalate [',', ' '] ((c :: columns).map BracketedColumn.text) := by
  have helement (d : BracketedColumn) : spelledText (mark ',' :: blank :: columnLexemes d) =
      [',', ' '] ++ d.text := by
    simp [mark, blank, spelledText_columnLexemes]
  rw [columnTailLexemes, spelledText_flatMap, funext helement, List.map_cons,
    Text.intercalate_cons, List.flatMap_map]

theorem spelledText_tableLexemes : spelledText (tableLexemes n names c columns) =
    List.intercalate ['.'] ((n :: names).map BracketedName.text) ++ [' '] ++
      '(' :: (List.intercalate [',', ' '] ((c :: columns).map BracketedColumn.text) ++ [')']) := by
  rw [← spelledText_nameTail, ← spelledText_columnTail]
  simp [tableLexemes, spelledText_columnLexemes, blank, mark, bracketed]

theorem spelledText_statementLexemes : spelledText (statementLexemes n names c columns) =
    bracketedTable (n :: names) (c :: columns) := by
  have hhead (ls : List Spelled) :
      spelledText (bare "CREATE".toList :: blank :: bare "TABLE".toList :: blank :: ls) =
        "CREATE TABLE ".toList ++ spelledText ls := rfl
  rw [statementLexemes, hhead, spelledText_tableLexemes]
  rfl

/-! ### Their tokens -/

theorem tokens_columnLexemes (c : BracketedColumn) :
    (columnLexemes c).filterMap (·.token) = columnTokens c := by
  rcases c with ⟨name, type, _ | _, _ | _ | _⟩ <;> rfl

theorem tokens_columnTail :
    (columnTailLexemes columns).filterMap (·.token) = columnTail columns := by
  have helement (d : BracketedColumn) :
      (mark ',' :: blank :: columnLexemes d).filterMap (·.token) =
        .symbol "," :: columnTokens d :=
    congrArg (Token.symbol "," :: ·) (tokens_columnLexemes d)
  rw [columnTailLexemes, List.filterMap_flatMap, funext helement, columnTail]

theorem tokens_nameTail : (nameTailLexemes names).filterMap (·.token) = nameTail names := by
  rw [nameTailLexemes, List.filterMap_flatMap]
  rfl

theorem tokens_tableLexemes :
    (tableLexemes n names c columns).filterMap (·.token) = tableTokens n names c columns := by
  rw [tableTokens, ← tokens_nameTail, ← tokens_columnLexemes, ← tokens_columnTail]
  simp [tableLexemes, blank, mark, bracketed]

theorem tokens_statementLexemes : (statementLexemes n names c columns).filterMap (·.token) =
    .bare "CREATE".toList :: .bare "TABLE".toList :: tableTokens n names c columns := by
  rw [← tokens_tableLexemes]
  rfl

/-! ### They are scanned one by one -/

theorem blank_scans (rest : List Char) : blank.ScansBefore .tsql rest :=
  ⟨' ', [], rfl, rfl⟩

theorem mark_scans {m : Char} (hm : m = ',' ∨ m = '(' ∨ m = ')') (rest : List Char) :
    (mark m).ScansBefore .tsql rest := by
  rcases hm with rfl | rfl | rfl
  · exact ⟨',', [], rfl, rfl⟩
  · exact ⟨'(', [], rfl, rfl⟩
  · exact ⟨')', [], rfl, rfl⟩

theorem bracketed_scans (n : BracketedName) (h : rest.head? ≠ some ']') :
    (bracketed n).ScansBefore .tsql rest := by
  have hscan := scan_bracketed n.closed h
  rw [String.ofList_toList, ← List.singleton_append, ← List.append_assoc] at hscan
  have hlength : (bracketed n).text.length = n.name.toList.length + 2 := by
    simp [bracketed, BracketedName.text]
  rw [← hlength] at hscan
  exact ⟨'[', n.name.toList ++ [']'], rfl, hscan⟩

/-- A column ends in front of the text. -/
def EndsColumnText (rest : List Char) : Prop :=
  ∃ m r, rest = m :: r ∧ (m = ',' ∨ m = ')')

section ColumnEnd

variable (h : EndsColumnText rest)
include h

theorem spells_nullLexemes (nullable : Option Bool) :
    Spells .tsql rest (nullLexemes nullable) := by
  obtain ⟨m, r, rfl, hm⟩ := h
  have hnull : (bare "NULL".toList).ScansBefore .tsql (m :: r) := by
    refine ⟨'N', ['U', 'L', 'L'], rfl, ?_⟩
    rcases hm with rfl | rfl <;> rfl
  rcases nullable with _ | _ | _
  · trivial
  · exact ⟨blank_scans _, ⟨'N', ['O', 'T'], rfl, rfl⟩, blank_scans _, hnull, trivial⟩
  · exact ⟨blank_scans _, hnull, trivial⟩

theorem head?_nullLexemes (nullable : Option Bool) :
    (spelledText (nullLexemes nullable) ++ rest).head? ≠ some ']' := by
  obtain ⟨m, r, rfl, hm⟩ := h
  rcases nullable with _ | _ | _
  · rcases hm with rfl | rfl <;> simp [nullLexemes, nullWords]
  · simp [nullLexemes, nullWords, blank]
  · simp [nullLexemes, nullWords, blank]

theorem spells_columnLexemes (c : BracketedColumn) : Spells .tsql rest (columnLexemes c) := by
  have htype : Spells .tsql rest (bracketed c.type :: nullLexemes c.nullable) :=
    ⟨bracketed_scans c.type (head?_nullLexemes h c.nullable), spells_nullLexemes h c.nullable⟩
  unfold columnLexemes
  split
  · exact ⟨bracketed_scans c.name (by simp [bracketed, BracketedName.text]), htype⟩
  · exact ⟨bracketed_scans c.name (by simp [blank]), blank_scans _, htype⟩

end ColumnEnd

theorem endsColumnText_columnTail (columns : List BracketedColumn) :
    EndsColumnText (spelledText (columnTailLexemes columns) ++ ')' :: rest) := by
  cases columns with
  | nil => exact ⟨')', rest, rfl, .inr rfl⟩
  | cons c cs => exact ⟨',', _, rfl, .inl rfl⟩

theorem spells_columnTail : ∀ columns : List BracketedColumn,
    Spells .tsql (')' :: rest) (columnTailLexemes columns)
  | [] => trivial
  | c :: cs =>
    ⟨mark_scans (.inl rfl) _, blank_scans _, spells_append (spells_columnTail cs)
      (spells_columnLexemes (endsColumnText_columnTail cs) c)⟩

theorem head?_nameTail (names : List BracketedName) :
    (spelledText (nameTailLexemes names) ++ ' ' :: rest).head? ≠ some ']' := by
  cases names with
  | nil => simp [nameTailLexemes]
  | cons m ms => simp [nameTailLexemes, mark]

theorem spells_nameTail : ∀ names : List BracketedName,
    Spells .tsql (' ' :: rest) (nameTailLexemes names)
  | [] => trivial
  | m :: ms =>
    ⟨⟨'.', [], rfl, rfl⟩, bracketed_scans m (head?_nameTail ms), spells_nameTail ms⟩

theorem spells_tableLexemes : Spells .tsql [] (tableLexemes n names c columns) := by
  have hlast : Spells .tsql [] [mark ')'] := ⟨mark_scans (.inr (.inr rfl)) _, trivial⟩
  have htail : Spells .tsql [] (columnTailLexemes columns ++ [mark ')']) :=
    spells_append hlast (spells_columnTail columns)
  have hcolumns :
      Spells .tsql [] (columnLexemes c ++ (columnTailLexemes columns ++ [mark ')'])) := by
    refine spells_append htail (spells_columnLexemes ?_ c)
    rw [spelledText_append, List.append_assoc]
    exact endsColumnText_columnTail columns
  have hlist : Spells .tsql [] (blank :: mark '(' ::
      (columnLexemes c ++ (columnTailLexemes columns ++ [mark ')']))) :=
    ⟨blank_scans _, mark_scans (.inr (.inl rfl)) _, hcolumns⟩
  refine ⟨bracketed_scans n ?_, spells_append hlist (spells_nameTail names)⟩
  rw [spelledText_append, List.append_assoc]
  exact head?_nameTail names

theorem spells_statementLexemes : Spells .tsql [] (statementLexemes n names c columns) :=
  ⟨⟨'C', ['R', 'E', 'A', 'T', 'E'], rfl, rfl⟩, blank_scans _,
    ⟨'T', ['A', 'B', 'L', 'E'], rfl, rfl⟩, blank_scans _, spells_tableLexemes⟩

/-! ### What the grammar reads -/

theorem length_le_flatMap {α β : Type} {f : α → List β} (h : ∀ a, 1 ≤ (f a).length) :
    ∀ as : List α, as.length ≤ (as.flatMap f).length
  | [] => Nat.le_refl _
  | a :: as => by
    rw [List.flatMap_cons, List.length_append, List.length_cons, Nat.add_comm]
    exact Nat.add_le_add (h a) (length_le_flatMap h as)

theorem length_le_tableTokens :
    names.length + columns.length ≤ (tableTokens n names c columns).length := by
  have hnames : names.length ≤ (nameTail names).length :=
    length_le_flatMap (fun m => by simp) names
  have hcolumns : columns.length ≤ (columnTail columns).length :=
    length_le_flatMap (fun d => by simp) columns
  simp only [tableTokens, List.length_cons, List.length_append]
  omega

/-- **What is read by grammar.** The name parts are those that were written, and so are the names
and the types of the columns. -/
theorem parse_bracketed {names : List BracketedName} {columns : List BracketedColumn}
    (hn : names ≠ []) (hc : columns ≠ []) :
    parse .tsql (bracketedTable names columns) =
      .ok [.createTable (names.map (·.name)) (columns.map declaredColumn)] := by
  obtain ⟨n, names, rfl⟩ := List.exists_cons_of_ne_nil hn
  obtain ⟨c, columns, rfl⟩ := List.exists_cons_of_ne_nil hc
  have hts := map_token_placedFrom (statementLexemes n names c columns) ⟨1, 1⟩
  rw [tokens_statementLexemes] at hts
  have hlength := congrArg List.length hts
  have hle : names.length + columns.length ≤ _ := length_le_tableTokens (n := n) (c := c)
  rw [List.length_map, List.length_cons, List.length_cons] at hlength
  have hread := (script_takes hts).read_eq (by unfold Rule.enoughFuel; omega)
  unfold parse
  rw [← spelledText_statementLexemes, tokens_spelled spells_statementLexemes]
  dsimp only
  rw [hread]
  dsimp only
  rw [List.filterMap_cons_some statement_tableTree, List.filterMap_nil]

end Sql
end SchemaMap
