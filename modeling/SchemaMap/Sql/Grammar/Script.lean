/-
# The grammar

A script is any number of statements with semicolons between, and each symbol of the grammar
has its rule.

Key definitions: `Sql.Grammar.statement`, `Sql.Grammar.script`, `Sql.grammar`.
-/
import SchemaMap.Sql.Grammar.Session

namespace SchemaMap
namespace Sql
namespace Grammar

open Rule Ahead

/-- A statement. -/
def statement (d : Dialect) : G :=
  let queryFirst : Ahead := fun ts =>
    (peek (anyOf ["SELECT", "WITH", "VALUES"]) ts).or (peek (sym "(") ts)
  let arms : List (Ahead × G) :=
    [(word "CREATE", .call .create), (word "ALTER", .call .alter), (word "DROP", .call .drop),
     (queryFirst, .call .query), (word "INSERT", .call .insert), (word "UPDATE", .call .update),
     (word "DELETE", delete d), (word "MERGE", merge), (word "TRUNCATE", truncate d),
     (word "COPY", copy d)]
  .nested (.node .statement (choose (arms ++ sessionArms d) (.wrong "an SQL statement")))

/-- Statements with semicolons between. -/
def script : G :=
  .both (.loop (sym ";") .done)
    (choose [(atEnd, .done)] (.both (.call .statement) (.call .scriptRest)))

/-- What follows a statement: another one behind a semicolon, the end, or the word `END`. -/
def scriptRest : G :=
  choose [(peek (sym ";"), .call .script), (atEnd, .done), (peek (word "END"), .done)]
    (.wrong "end of statement")

end Grammar

/-- The rule of every symbol. -/
def grammar (d : Dialect) : Symbol → Rule Symbol
  | .script => Grammar.script
  | .scriptRest => Grammar.scriptRest
  | .statement => Grammar.statement d
  | .create => Grammar.create d
  | .alter => Grammar.alter d
  | .drop => Grammar.drop d
  | .query => Grammar.query d
  | .queryBody n => Grammar.queryBody n
  | .setOperations n => Grammar.setOperations n
  | .select => Grammar.select d
  | .tableAndJoins => Grammar.tableAndJoins
  | .tableFactor => Grammar.tableFactor d
  | .nestedJoin => Grammar.nestedJoin
  | .documentColumn => Grammar.documentColumn d
  | .expr n => Grammar.subexpr n
  | .operators n => Grammar.operators d n
  | .primary => Grammar.primary d
  | .nameTail => Grammar.nameTail d
  | .argumentList => Grammar.argumentList
  | .functionCall => Grammar.functionCall d
  | .dataType => Grammar.dataType d
  | .elementType => Grammar.elementType d
  | .columnDef => Grammar.columnDef
  | .columnOptions => Grammar.columnOptions d
  | .plainOptions => Grammar.plainOptions d
  | .tableConstraint => Grammar.tableConstraint d
  | .insert => Grammar.insert d
  | .update => Grammar.update d

end Sql
end SchemaMap
