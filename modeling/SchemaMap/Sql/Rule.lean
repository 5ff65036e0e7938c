/-
# Rules of a grammar

A grammar gives a rule to each of its symbols. A rule is read against a list of tokens from
the front: it takes some of them and leaves the rest, or refuses. Choices are made by the
tokens ahead and are final; only `attempt` and `many` go back. What is taken is kept as a
tree, with the parts that carry a label as its nodes. Nested rules count against a depth,
which bounds how deep a text may nest. A rule may be read on a walk along a hierarchy, where
some words have a meaning of their own.

Key definitions: `Sql.Refusal`, `Sql.Tree`, `Sql.Rule`, `Sql.Rule.run`, `Sql.Rule.read`.
-/
import SchemaMap.Sql.Token

namespace SchemaMap
namespace Sql

/-- Why a text is refused. -/
inductive Refusal where
  /-- Something else was expected in the place of a token, or of the end of the text. -/
  | expected (what : String) (found : Option Placed)
  /-- The text breaks another rule, at a place where one is known. -/
  | flaw (reason : String) (place : Option Place)
  /-- The text nests too deep. -/
  | tooDeep
deriving DecidableEq, Repr, Inhabited

/-- The wording of a refusal. -/
def Refusal.message : Refusal → String
  | .expected what (some t) =>
    "sql parser error: Expected: " ++ what ++ ", found: " ++ t.token.shown ++ t.place.shown
  | .expected what none => "sql parser error: Expected: " ++ what ++ ", found: EOF"
  | .flaw reason (some p) => "sql parser error: " ++ reason ++ p.shown
  | .flaw reason none => "sql parser error: " ++ reason
  | .tooDeep => "sql parser error: recursion limit exceeded"

/-- The parts of a text that are looked for in a tree. -/
inductive Label where
  | statement
  | table
  | schema
  | name
  | column
  | type
deriving DecidableEq, Repr, Inhabited

/-- What a rule has taken. -/
inductive Tree where
  | leaf (token : Token)
  | node (label : Label) (children : List Tree)
deriving Repr, Inhabited

/-- A test of the tokens ahead; where it passes it gives the number of tokens to take. -/
abbrev Ahead := List Placed → Option Nat

/-- A rule over the symbols `σ`. -/
inductive Rule (σ : Type) where
  /-- Takes nothing. -/
  | done
  /-- Refuses the next token in favour of `what`. -/
  | wrong (what : String)
  /-- Refuses for another reason, at the place of the next token. -/
  | broken (reason : String)
  /-- Refuses for another reason, at no place. -/
  | refused (reason : String)
  /-- Takes one token that passes a test. -/
  | take (test : Token → Bool) (what : String)
  /-- One rule after another. -/
  | both (first second : Rule σ)
  /-- Takes the tokens of the test and goes on with `hit` where it passes, and with `miss`
  where it does not. -/
  | look (test : Ahead) (hit miss : Rule σ)
  /-- Takes the tokens of the test and what the rule takes, as long as the test passes. -/
  | loop (test : Ahead) (body : Rule σ)
  /-- Each group takes part at most once, in any order: the first of its members whose test
  passes. -/
  | eachOnce (groups : List (List (Ahead × Rule σ)))
  /-- Goes on with `hit` behind the rule where it takes something, and with `miss` in its
  place where it refuses. -/
  | attempt (tried hit miss : Rule σ)
  /-- Takes what the rule takes, as long as it does not refuse. -/
  | many (body : Rule σ)
  /-- The rule of a symbol. -/
  | call (symbol : σ)
  /-- The rule, one level deeper. -/
  | nested (inner : Rule σ)
  /-- The rule, kept as a node of the tree. -/
  | node (label : Label) (inner : Rule σ)
  /-- The rule, on a walk along a hierarchy. -/
  | walking (inner : Rule σ)
  /-- Goes on with `hit` on a walk along a hierarchy, and with `miss` elsewhere. -/
  | onWalk (hit miss : Rule σ)
  /-- A closing angle bracket, which may be the first half of a double one. -/
  | closeAngle

/-- The tokens that are left, and the trees of what was taken, latest first. -/
structure Reading where
  rest : List Placed
  taken : List Tree
deriving Inhabited

namespace Reading

/-- The refusal of the next token in favour of `what`. -/
def expected (s : Reading) (what : String) : Refusal :=
  .expected what s.rest.head?

/-- The first `n` tokens are taken. -/
def advance (s : Reading) (n : Nat) : Reading :=
  ⟨s.rest.drop n, ((s.rest.take n).map fun t => Tree.leaf t.token).reverse ++ s.taken⟩

end Reading

/-- The first member of a group whose test passes. -/
def firstOf {σ : Type} (ts : List Placed) : List (Ahead × Rule σ) → Option (Nat × Rule σ)
  | [] => none
  | (test, r) :: more =>
    match test ts with
    | some n => some (n, r)
    | none => firstOf ts more

/-- The first group that takes part, with the groups that are left. -/
def firstGroup {σ : Type} (ts : List Placed) :
    List (List (Ahead × Rule σ)) → Option (Nat × Rule σ × List (List (Ahead × Rule σ)))
  | [] => none
  | g :: gs =>
    match firstOf ts g with
    | some (n, r) => some (n, r, gs)
    | none => (firstGroup ts gs).map fun (n, r, left) => (n, r, g :: left)

namespace Rule

variable {σ : Type}

/-- Reads a rule, on a walk along a hierarchy or not; `depth` levels may still be nested, and
`fuel` bounds the steps of any one path through the rules. -/
def run (grammar : σ → Rule σ) : Nat → Nat → Bool → Rule σ → Reading → Except Refusal Reading
  | 0, _, _, _, _ => .error .tooDeep
  | fuel + 1, depth, walk, r, s =>
    match r with
    | .done => .ok s
    | .wrong what => .error (s.expected what)
    | .broken reason => .error (.flaw reason (s.rest.head?.map (·.place)))
    | .refused reason => .error (.flaw reason none)
    | .take test what =>
      match s.rest with
      | [] => .error (s.expected what)
      | t :: _ => if test t.token then .ok (s.advance 1) else .error (s.expected what)
    | .both a b =>
      match run grammar fuel depth walk a s with
      | .error e => .error e
      | .ok s' => run grammar fuel depth walk b s'
    | .look test hit miss =>
      match test s.rest with
      | some n => run grammar fuel depth walk hit (s.advance n)
      | none => run grammar fuel depth walk miss s
    | .loop test body =>
      match test s.rest with
      | none => .ok s
      | some n =>
        match run grammar fuel depth walk body (s.advance n) with
        | .error e => .error e
        | .ok s' => run grammar fuel depth walk (.loop test body) s'
    | .eachOnce groups =>
      match firstGroup s.rest groups with
      | none => .ok s
      | some (n, member, left) =>
        match run grammar fuel depth walk member (s.advance n) with
        | .error e => .error e
        | .ok s' => run grammar fuel depth walk (.eachOnce left) s'
    | .attempt tried hit miss =>
      match run grammar fuel depth walk tried s with
      | .ok s' => run grammar fuel depth walk hit s'
      | .error .tooDeep => .error .tooDeep
      | .error _ => run grammar fuel depth walk miss s
    | .many body =>
      match run grammar fuel depth walk body s with
      | .ok s' => run grammar fuel depth walk (.many body) s'
      | .error .tooDeep => .error .tooDeep
      | .error _ => .ok s
    | .call symbol => run grammar fuel depth walk (grammar symbol) s
    | .nested inner =>
      match depth with
      | 0 => .error .tooDeep
      | d + 1 => run grammar fuel d walk inner s
    | .node label inner =>
      match run grammar fuel depth walk inner ⟨s.rest, []⟩ with
      | .error e => .error e
      | .ok s' => .ok ⟨s'.rest, .node label s'.taken.reverse :: s.taken⟩
    | .walking inner => run grammar fuel depth true inner s
    | .onWalk hit miss => run grammar fuel depth walk (if walk then hit else miss) s
    | .closeAngle =>
      match s.rest with
      | ⟨.symbol ">", _⟩ :: _ => .ok (s.advance 1)
      | ⟨.symbol ">>", p⟩ :: more => .ok ⟨⟨.symbol ">", p⟩ :: more, .leaf (.symbol ">") :: s.taken⟩
      | _ => .error (s.expected ">")

/-- The number of levels that a text may nest. -/
def maxDepth : Nat := 50

/-- More steps than any path through a grammar takes on `n` tokens. -/
def enoughFuel (n : Nat) : Nat := 2000 * (n + 2)

/-- Reads a rule against all tokens of a text, and gives what was taken. -/
def read (grammar : σ → Rule σ) (r : Rule σ) (ts : List Placed) : Except Refusal (List Tree) :=
  match run grammar (enoughFuel ts.length) maxDepth false r ⟨ts, []⟩ with
  | .ok s => .ok s.taken.reverse
  | .error e => .error e

/-! ## Building rules -/

/-- Rules one after another. -/
def seq : List (Rule σ) → Rule σ
  | [] => .done
  | [r] => r
  | r :: rs => .both r (seq rs)

/-- The first rule whose test passes, or the last one. -/
def choose (arms : List (Ahead × Rule σ)) (other : Rule σ) : Rule σ :=
  arms.foldr (fun (test, hit) miss => .look test hit miss) other

/-- A rule that takes part where its test passes. -/
def opt (test : Ahead) (r : Rule σ) : Rule σ :=
  .look test r .done

/-- The symbol `s`. -/
def lit (s : String) : Rule σ :=
  .take (· == .symbol s) s

/-- The keyword `k`. -/
def kw (k : String) : Rule σ :=
  .take (Token.isKeyword k) k

/-- The keywords in order. -/
def kws (ks : List String) : Rule σ :=
  seq (ks.map kw)

/-- One of the keywords. -/
def oneOf (ks : List String) : Rule σ :=
  .take (fun t => ks.any fun k => t.isKeyword k) ("one of " ++ Text.join " or " ks)

/-- A word or a quoted text as a name. -/
def ident : Rule σ :=
  .take Token.isNamePart "identifier"

end Rule

/-! ## Tests of the tokens ahead -/

namespace Ahead

/-- The keywords in order, which are taken. -/
def words : List String → Ahead
  | [], _ => some 0
  | _ :: _, [] => none
  | k :: ks, t :: ts => if t.token.isKeyword k then (words ks ts).map (· + 1) else none

/-- The keyword `k`, which is taken. -/
def word (k : String) : Ahead :=
  words [k]

/-- One of the keywords, which is taken. -/
def anyOf (ks : List String) : Ahead
  | [] => none
  | t :: _ => if ks.any fun k => t.token.isKeyword k then some 1 else none

/-- The symbol `s`, which is taken. -/
def sym (s : String) : Ahead
  | [] => none
  | t :: _ => if t.token == .symbol s then some 1 else none

/-- One of the symbols, which is taken. -/
def anySym (ss : List String) : Ahead
  | [] => none
  | t :: _ => if ss.any fun s => t.token == .symbol s then some 1 else none

/-- A token that passes a test, which is taken. -/
def token (p : Token → Bool) : Ahead
  | [] => none
  | t :: _ => if p t.token then some 1 else none

/-- One test behind another. -/
def andThen (a b : Ahead) : Ahead := fun ts =>
  (a ts).bind fun n => (b (ts.drop n)).map (n + ·)

/-- The same test, which takes nothing. -/
def peek (a : Ahead) : Ahead := fun ts =>
  (a ts).map fun _ => 0

/-- One test, or another where it does not pass. -/
def orElse (a b : Ahead) : Ahead := fun ts =>
  (a ts).or (b ts)

/-- Passes where the test does not, and takes nothing. -/
def absent (a : Ahead) : Ahead := fun ts =>
  if (a ts).isSome then none else some 0

/-- Passes in any case, and takes the tokens of the test where that passes. -/
def maybe (a : Ahead) : Ahead := fun ts =>
  some ((a ts).getD 0)

/-- The end of the text. -/
def atEnd : Ahead := fun ts =>
  if ts.isEmpty then some 0 else none

/-- The test, in one dialect only. -/
def when (b : Bool) (a : Ahead) : Ahead := fun ts =>
  if b then a ts else none

/-- Whether there is another token, which is taken. -/
def anyToken : Ahead :=
  token fun _ => true

end Ahead
end Sql
end SchemaMap
