/-
# The rule of a table between square brackets

The tokens of a `CREATE TABLE` whose names and types stand between square brackets are followed
through the grammar of T-SQL, from the options of a column up to the script. The rules look at the
tokens and not at their places, so what is taken depends on the tokens alone. The fuel that a rule
needs grows with the number of name parts and columns; the constants are rounded up.

Key definitions: `Sql.columnTokens`, `Sql.tableTokens`, `Sql.columnTree`, `Sql.tableTree`.
Key theorems: `Sql.columnDef_takes`, `Sql.columns_take`, `Sql.script_takes`.
-/
import SchemaMap.Proofs.Script.BracketedTable
import SchemaMap.Proofs.Sql.Rule
import SchemaMap.Sql.Grammar.Script

namespace SchemaMap
namespace Sql

open Rule Rule.Takes Ahead
open Script (BracketedName BracketedColumn)

/-! ### Tokens and trees -/

/-- The token of a word between square brackets. -/
def bracketToken (n : BracketedName) : Token :=
  .word n.name (some '[') none

/-- The tokens that tell whether a column may be empty. -/
def nullTokens (nullable : Option Bool) : List Token :=
  (Script.nullWords nullable).map Token.bare

/-- The tokens of a column. -/
def columnTokens (c : BracketedColumn) : List Token :=
  bracketToken c.name :: bracketToken c.type :: nullTokens c.nullable

/-- The tokens of a name behind its first part. -/
def nameTail (names : List BracketedName) : List Token :=
  names.flatMap fun n => [.symbol ".", bracketToken n]

/-- The tokens of a column list behind its first column. -/
def columnTail (columns : List BracketedColumn) : List Token :=
  columns.flatMap fun c => .symbol "," :: columnTokens c

/-- The tokens of a table: its name and its columns. -/
def tableTokens (n : BracketedName) (names : List BracketedName) (c : BracketedColumn)
    (columns : List BracketedColumn) : List Token :=
  bracketToken n ::
    (nameTail names ++ .symbol "(" :: (columnTokens c ++ (columnTail columns ++ [.symbol ")"])))

/-- What is taken of a column. -/
def columnTree (c : BracketedColumn) : Tree :=
  .node .column
    (.leaf (bracketToken c.name) :: .node .type [.leaf (bracketToken c.type)]
      :: (nullTokens c.nullable).map Tree.leaf)

/-- What is taken of a column list. -/
def columnTrees (c : BracketedColumn) (columns : List BracketedColumn) : List Tree :=
  .leaf (.symbol "(") :: columnTree c ::
    (columns.flatMap (fun d => [.leaf (.symbol ","), columnTree d]) ++ [.leaf (.symbol ")")])

/-- What is taken of a table. -/
def tableTree (n : BracketedName) (names : List BracketedName) (c : BracketedColumn)
    (columns : List BracketedColumn) : Tree :=
  .node .table
    (.node .name (.leaf (bracketToken n) :: (nameTail names).map Tree.leaf)
      :: columnTrees c columns)

theorem exists_of_tokens_eq_cons {ts : List Placed} {t : Token} {us : List Token}
    (h : ts.map (·.token) = t :: us) :
    ∃ p vs, ts = ⟨t, p⟩ :: vs ∧ vs.map (·.token) = us := by
  obtain ⟨⟨_, p⟩, vs, rfl, rfl, hvs⟩ := List.map_eq_cons_iff.1 h
  exact ⟨p, vs, rfl, hvs⟩

variable {depth : Nat} {walk : Bool} {ts rest : List Placed} {p q : Place}
  {n : BracketedName} {names : List BracketedName} {c : BracketedColumn}
  {columns : List BracketedColumn}

/-! ### Columns -/

/-- A column ends in front of the tokens. -/
def EndsColumn (ts : List Placed) : Prop :=
  ∃ s p us, ts = ⟨.symbol s, p⟩ :: us ∧ (s = "," ∨ s = ")")

/-- No option stands where a column ends. -/
theorem columnOptions_takes_nothing (h : EndsColumn rest) :
    Takes (grammar .tsql) depth walk 40 (.call .columnOptions) rest rest [] := by
  obtain ⟨s, p, us, rfl, hs⟩ := h
  -- none of the tests passes: the named options, then the words that are passed over
  refine mono (call (choose_miss ?_ (choose_miss ?_ (seq_skip ?_ (seq_skip ?_ (seq_skip ?_
    (seq_skip ?_ (seq_skip ?_ (choose_miss ?_ (both (opt_miss ?_) (choose_miss ?_ done)))))))))))
    (by decide)
  all_goals rcases hs with rfl | rfl <;> rfl

/-- What a column has behind its type is taken as its options. -/
theorem columnOptions_takes {nullable : Option Bool} (hts : ts.map (·.token) = nullTokens nullable)
    (h : EndsColumn rest) :
    Takes (grammar .tsql) depth walk 60 (.call .columnOptions) (ts ++ rest) rest
      ((nullTokens nullable).map Tree.leaf) := by
  have hend : Takes (grammar .tsql) depth walk 40 (.call .columnOptions) rest rest [] :=
    columnOptions_takes_nothing h
  rcases nullable with _ | _ | _
  · obtain rfl := List.map_eq_nil_iff.1 hts
    exact hend.mono (by decide)
  · obtain ⟨p, us, rfl, hus⟩ := exists_of_tokens_eq_cons hts
    obtain ⟨q, vs, rfl, hvs⟩ := exists_of_tokens_eq_cons hus
    obtain rfl := List.map_eq_nil_iff.1 hvs
    exact mono (call (choose_miss rfl (choose_hit (k := 2) rfl (both done hend)))) (by decide)
  · obtain ⟨p, us, rfl, hus⟩ := exists_of_tokens_eq_cons hts
    obtain rfl := List.map_eq_nil_iff.1 hus
    exact mono (call (choose_miss rfl (choose_hit (k := 1) rfl (both done hend)))) (by decide)

/-- A type without arguments and without a collation behind it ends in front of the tokens. -/
structure EndsType (ts : List Placed) : Prop where
  point : sym "." ts = none
  opening : sym "(" ts = none
  bracket : sym "[" ts = none
  collation : word "COLLATE" ts = none

theorem endsType {nullable : Option Bool} (hts : ts.map (·.token) = nullTokens nullable)
    (h : EndsColumn rest) : EndsType (ts ++ rest) := by
  rcases nullable with _ | _ | _
  · obtain rfl := List.map_eq_nil_iff.1 hts
    obtain ⟨s, p, us, rfl, rfl | rfl⟩ := h
    · exact ⟨rfl, rfl, rfl, rfl⟩
    · exact ⟨rfl, rfl, rfl, rfl⟩
  · obtain ⟨p, us, rfl, -⟩ := exists_of_tokens_eq_cons hts
    exact ⟨rfl, rfl, rfl, rfl⟩
  · obtain ⟨p, us, rfl, -⟩ := exists_of_tokens_eq_cons hts
    exact ⟨rfl, rfl, rfl, rfl⟩

/-- A type between square brackets is taken as a name of its own. -/
theorem dataType_takes (n : BracketedName) (h : EndsType rest) :
    Takes (grammar .tsql) depth walk 40 (.call .dataType) (⟨bracketToken n, p⟩ :: rest) rest
      [.node .type [.leaf (bracketToken n)]] :=
  have hname := both (take rfl) (loop_stop h.point)
  mono (call (node (both
    (choose_miss rfl (look_hit (k := 0) rfl (both hname (opt_miss h.opening))))
    (loop_stop h.bracket)))) (by decide)

theorem columnDef_takes (hts : ts.map (·.token) = columnTokens c) (h : EndsColumn rest) :
    Takes (grammar .tsql) depth walk 80 (.node .column (.call .columnDef)) (ts ++ rest) rest
      [columnTree c] := by
  obtain ⟨p, us, rfl, hus⟩ := exists_of_tokens_eq_cons hts
  obtain ⟨q, vs, rfl, hvs⟩ := exists_of_tokens_eq_cons hus
  have htype := endsType hvs h
  exact mono (node (call (seq_cons (take rfl) (seq_cons (dataType_takes c.type htype)
    (seq_skip htype.collation (columnOptions_takes hvs h)))))) (by decide)

/-! ### The column list -/

/-- The rule of what stands in a column list. -/
def elementRule : Rule Symbol :=
  choose
    [(Grammar.constraintAhead, .call .tableConstraint),
     (peek (token Token.isWord), .node .column (.call .columnDef))]
    (.wrong "column name or constraint definition")

theorem columns_eq : Grammar.columns =
    choose
      [(andThen (sym "(") (sym ")"), .done),
       (sym "(", seq [elementRule, .loop (sym ",") elementRule,
         .take (· == .symbol ")") "',' or ')' after column definition"])]
      .done :=
  rfl

theorem elementRule_takes (hts : ts.map (·.token) = columnTokens c) (h : EndsColumn rest) :
    Takes (grammar .tsql) depth walk 90 elementRule (ts ++ rest) rest [columnTree c] := by
  have hcolumn : Takes (grammar .tsql) depth walk 80 (.node .column (.call .columnDef)) (ts ++ rest)
      rest [columnTree c] := columnDef_takes hts h
  obtain ⟨p, us, rfl, -⟩ := exists_of_tokens_eq_cons hts
  exact mono (choose_hit (k := 0) rfl hcolumn) (by decide)

theorem endsColumn_columnTail (hts : ts.map (·.token) = columnTail columns) :
    EndsColumn (ts ++ ⟨.symbol ")", p⟩ :: rest) := by
  cases columns with
  | nil =>
    obtain rfl := List.map_eq_nil_iff.1 hts
    exact ⟨")", p, rest, rfl, .inr rfl⟩
  | cons c cs =>
    obtain ⟨q, us, rfl, -⟩ := exists_of_tokens_eq_cons hts
    exact ⟨",", q, _, rfl, .inl rfl⟩

theorem columnTail_takes : ∀ {columns : List BracketedColumn} {ts : List Placed},
    ts.map (·.token) = columnTail columns →
      Takes (grammar .tsql) depth walk (100 + columns.length) (.loop (sym ",") elementRule)
        (ts ++ ⟨.symbol ")", p⟩ :: rest) (⟨.symbol ")", p⟩ :: rest)
        (columns.flatMap fun c => [.leaf (.symbol ","), columnTree c])
  | [], ts, hts => by
    obtain rfl := List.map_eq_nil_iff.1 hts
    exact mono (loop_stop rfl) (by decide)
  | c :: cs, ts, hts => by
    obtain ⟨q, us, rfl, hus⟩ := exists_of_tokens_eq_cons hts
    obtain ⟨vs, ws, rfl, hvs, hws⟩ := List.map_eq_append_iff.1 hus
    have hcolumn : Takes (grammar .tsql) depth walk 90 elementRule
        (vs ++ (ws ++ ⟨.symbol ")", p⟩ :: rest)) (ws ++ ⟨.symbol ")", p⟩ :: rest) [columnTree c] :=
      elementRule_takes hvs (endsColumn_columnTail hws)
    have htail : Takes (grammar .tsql) depth walk (100 + cs.length) (.loop (sym ",") elementRule)
        (ws ++ ⟨.symbol ")", p⟩ :: rest) (⟨.symbol ")", p⟩ :: rest) _ :=
      columnTail_takes hws
    rw [← List.append_assoc] at hcolumn
    have hstep : Takes (grammar .tsql) depth walk (max 90 (100 + cs.length) + 1)
        (.loop (sym ",") elementRule) (⟨.symbol ",", q⟩ :: (vs ++ ws ++ ⟨.symbol ")", p⟩ :: rest))
        (⟨.symbol ")", p⟩ :: rest) _ := loop_step (k := 1) rfl hcolumn htail
    exact hstep.mono (by simp only [List.length_cons]; omega)

theorem columns_take (hts : ts.map (·.token) = columnTokens c ++ columnTail columns) :
    Takes (grammar .tsql) depth walk (110 + columns.length) Grammar.columns
      (⟨.symbol "(", p⟩ :: (ts ++ ⟨.symbol ")", q⟩ :: rest)) rest (columnTrees c columns) := by
  obtain ⟨us, vs, rfl, hus, hvs⟩ := List.map_eq_append_iff.1 hts
  have hcolumn : Takes (grammar .tsql) depth walk 90 elementRule
      (us ++ (vs ++ ⟨.symbol ")", q⟩ :: rest)) (vs ++ ⟨.symbol ")", q⟩ :: rest) [columnTree c] :=
    elementRule_takes hus (endsColumn_columnTail hvs)
  have htail : Takes (grammar .tsql) depth walk (100 + columns.length)
      (.loop (sym ",") elementRule) (vs ++ ⟨.symbol ")", q⟩ :: rest) (⟨.symbol ")", q⟩ :: rest) _ :=
    columnTail_takes hvs
  have hlast : Takes (grammar .tsql) depth walk 1
      (seq [.take (· == .symbol ")") "',' or ')' after column definition"])
      (⟨.symbol ")", q⟩ :: rest) rest [.leaf (.symbol ")")] := take rfl
  rw [← List.append_assoc] at hcolumn
  have hlist := seq_cons hcolumn (seq_cons htail hlast)
  obtain ⟨r, ws, rfl, -⟩ := exists_of_tokens_eq_cons hus
  rw [columns_eq]
  exact mono (choose_hit (k := 1) rfl hlist)
    (by simp only [List.length_cons, List.length_nil]; omega)

/-! ### The table -/

theorem nameTail_takes : ∀ {names : List BracketedName} {ts : List Placed},
    ts.map (·.token) = nameTail names →
      Takes (grammar .tsql) depth walk (2 + names.length) (.loop (sym ".") ident)
        (ts ++ ⟨.symbol "(", p⟩ :: rest) (⟨.symbol "(", p⟩ :: rest)
        ((nameTail names).map Tree.leaf)
  | [], ts, hts => by
    obtain rfl := List.map_eq_nil_iff.1 hts
    exact mono (loop_stop rfl) (by decide)
  | n :: ns, ts, hts => by
    obtain ⟨q, us, rfl, hus⟩ := exists_of_tokens_eq_cons hts
    obtain ⟨r, vs, rfl, hvs⟩ := exists_of_tokens_eq_cons hus
    have htail : Takes (grammar .tsql) depth walk (2 + ns.length) (.loop (sym ".") ident)
        (vs ++ ⟨.symbol "(", p⟩ :: rest) (⟨.symbol "(", p⟩ :: rest) _ := nameTail_takes hvs
    have hstep : Takes (grammar .tsql) depth walk (max 1 (2 + ns.length) + 1)
        (.loop (sym ".") ident) (⟨.symbol ".", q⟩ :: ⟨bracketToken n, r⟩ ::
          (vs ++ ⟨.symbol "(", p⟩ :: rest)) (⟨.symbol "(", p⟩ :: rest) _ :=
      loop_step (k := 1) rfl (take rfl) htail
    exact hstep.mono (by simp only [List.length_cons]; omega)

/-- No clause stands behind the columns at the end of the text. -/
theorem tableClauses_take_nothing :
    Takes (grammar .tsql) depth walk 40 (Grammar.tableClauses .tsql) [] [] [] := by
  refine mono (seq_nothing (n := 2) ?_) (by decide)
  simp only [List.forall_mem_cons]
  refine ⟨opt_miss rfl, opt_miss rfl, mono (loop_stop rfl) (by decide), ?_⟩
  exact ⟨opt_miss rfl, opt_miss rfl, opt_miss rfl, opt_miss rfl, opt_miss rfl, opt_miss rfl,
    opt_miss rfl, opt_miss rfl, opt_miss rfl, opt_miss rfl, opt_miss rfl, opt_miss rfl,
    List.forall_mem_nil _⟩

theorem createTable_takes (hts : ts.map (·.token) = tableTokens n names c columns) :
    Takes (grammar .tsql) depth walk (130 + names.length + columns.length)
      (Grammar.createTable .tsql) ts [] [tableTree n names c columns] := by
  obtain ⟨p, us, rfl, hus⟩ := exists_of_tokens_eq_cons hts
  obtain ⟨vs, ws, rfl, hvs, hws⟩ := List.map_eq_append_iff.1 hus
  obtain ⟨q, xs, rfl, hxs⟩ := exists_of_tokens_eq_cons hws
  rw [← List.append_assoc] at hxs
  obtain ⟨list, close, rfl, hlist, hclose⟩ := List.map_eq_append_iff.1 hxs
  obtain ⟨r, behind, rfl, hbehind⟩ := exists_of_tokens_eq_cons hclose
  obtain rfl := List.map_eq_nil_iff.1 hbehind
  have hname : Takes (grammar .tsql) depth walk (2 + names.length) (.loop (sym ".") ident)
      (vs ++ ⟨.symbol "(", q⟩ :: (list ++ [⟨.symbol ")", r⟩])) _ _ := nameTail_takes hvs
  have hcolumns : Takes (grammar .tsql) depth walk (110 + columns.length) Grammar.columns
      (⟨.symbol "(", q⟩ :: (list ++ [⟨.symbol ")", r⟩])) [] _ := columns_take hlist
  have hrest := seq_cons hcolumns tableClauses_take_nothing
  rw [List.append_nil] at hrest
  -- `IF NOT EXISTS` is missing in front of the name, a cluster and a copied table behind it
  exact mono (node (seq_skip rfl (seq_cons (node (both (take rfl) hname))
    (seq_skip rfl (seq_skip rfl (seq_skip rfl hrest)))))) (by omega)

theorem create_takes
    (hts : ts.map (·.token) = .bare "TABLE".toList :: tableTokens n names c columns) :
    Takes (grammar .tsql) depth walk (170 + names.length + columns.length) (.call .create) ts []
      [.leaf (.bare "TABLE".toList), tableTree n names c columns] := by
  obtain ⟨p, us, rfl, hus⟩ := exists_of_tokens_eq_cons hts
  -- the five kinds of words that may stand between `CREATE` and the object are missing
  exact mono (call (choose_miss rfl (seq_skip rfl (seq_skip rfl (seq_skip rfl (seq_skip rfl
    (seq_skip rfl (choose_hit (k := 1) rfl (createTable_takes hus)))))))))
    (by simp only [List.length_cons, List.length_nil]; omega)

theorem statement_takes (hts : ts.map (·.token) =
      .bare "CREATE".toList :: .bare "TABLE".toList :: tableTokens n names c columns) :
    Takes (grammar .tsql) (depth + 1) walk (250 + names.length + columns.length)
      (.call .statement) ts []
      [.node .statement [.leaf (.bare "CREATE".toList), .leaf (.bare "TABLE".toList),
        tableTree n names c columns]] := by
  obtain ⟨p, us, rfl, hus⟩ := exists_of_tokens_eq_cons hts
  exact mono (call (nested (node (choose_hit (k := 1) rfl (create_takes hus)))))
    (by simp [Grammar.sessionArms]; omega)

/-- **A table between square brackets is taken as one statement.** -/
theorem script_takes (hts : ts.map (·.token) =
      .bare "CREATE".toList :: .bare "TABLE".toList :: tableTokens n names c columns) :
    Takes (grammar .tsql) (depth + 1) walk (260 + names.length + columns.length)
      (.call .script) ts []
      [.node .statement [.leaf (.bare "CREATE".toList), .leaf (.bare "TABLE".toList),
        tableTree n names c columns]] := by
  have hstatement : Takes (grammar .tsql) (depth + 1) walk _ (.call .statement) ts [] _ :=
    statement_takes hts
  have hend : Takes (grammar .tsql) (depth + 1) walk 5 (.call .scriptRest) [] [] [] :=
    mono (call (choose_hit (k := 0) rfl done)) (by decide)
  obtain ⟨p, us, rfl, hus⟩ := exists_of_tokens_eq_cons hts
  exact mono (call (both (loop_stop rfl) (choose_miss rfl (both hstatement hend))))
    (by simp only [List.length_cons, List.length_nil]; omega)

end Sql
end SchemaMap
