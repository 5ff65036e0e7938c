/-
# Nodes of YAML

A document is a node: a scalar, a list of nodes, or pairs of them. An anchor gives a node a name,
under which it can stand again in other places of the document. Names stand for numbers, and the
last node with a number is meant in all of these places, also in those in front of it.

Key definitions: `Yaml.Node`, `Yaml.Document`, `Yaml.Document.target`, `Yaml.Document.ofText?`.
-/
import SchemaMap.Yaml.Token

namespace SchemaMap
namespace Yaml

/-- A node of a document. Tags are not kept. -/
inductive Node where
  | scalar (s : Scalar)
  | sequence (items : List Node)
  | mapping (pairs : List (Node × Node))
  /-- The last node with a number. -/
  | reference (number : Nat)
deriving Repr, Inhabited

/-- The node that stands where nothing has been written. -/
def Node.empty : Node :=
  .scalar ⟨[], true⟩

/-- A document: its node, if there is one, and the nodes with numbers, the last one first. -/
structure Document where
  root : Option Node
  numbered : List (Nat × Node) := []
deriving Repr, Inhabited

/-- The node that is meant in a place. -/
def Document.target (d : Document) : Node → Node
  | .reference number => (d.numbered.lookup number).getD .empty
  | n => n

/-- What is left of the tokens, the numbers of the names, and the nodes with numbers, the last
one first. -/
structure Rest where
  tokens : List Token
  names : List (List Char × Nat) := []
  numbered : List (Nat × Node) := []
  /-- The handles that tags may have. -/
  handles : List (List Char) := [[], ['!'], ['!', '!']]
deriving Inhabited

/-- Readers of tokens. -/
abbrev Reader := StateT Rest Option

/-- The next token. -/
def peek : Reader (Option Token) := do
  return (← get).tokens.head?

/-- Passes the next token. -/
def pass : Reader Unit :=
  modify fun r => { r with tokens := r.tokens.drop 1 }

/-- Passes the next token if it is the given one. -/
def passed (t : Token) : Reader Bool := do
  if (← peek) = some t then
    pass
    return true
  else return false

/-- Requires a token. -/
def expect (t : Token) : Reader Unit := do
  guard (← passed t)

/-- Whether the next token is one of some. -/
def nextIn (ts : List Token) : Reader Bool := do
  return (← peek).any ts.contains

/-- An anchor and a tag in front of a node, in any order; the tag must have a known handle. -/
def properties : Reader (Option (List Char) × Bool) := do
  match (← get).tokens with
  | .anchor a :: .tag h :: _ | .tag h :: .anchor a :: _ => do
    pass
    pass
    guard ((← get).handles.contains h)
    return (some a, true)
  | .anchor a :: _ => do
    pass
    return (some a, false)
  | .tag h :: _ => do
    pass
    guard ((← get).handles.contains h)
    return (none, true)
  | _ => return (none, false)

/-- Gives a name to the node that a reader reads. Its number is the number of names in front of
it, so that the node after a name that stands twice gets a number that is taken. -/
def named (name : Option (List Char)) (read : Reader Node) : Reader Node :=
  match name with
  | none => read
  | some a => do
    let r ← get
    let number := r.names.length
    let place := r.numbered.length
    set { r with
      names := (a, number) :: r.names.filter fun (b, _) => b ≠ a
      numbered := (number, .empty) :: r.numbered }
    let n ← read
    modify fun r =>
      { r with numbered := r.numbered.set (r.numbered.length - 1 - place) (number, n) }
    return n

/-- A node in a place, unless one of some tokens shows that it has not been written. -/
def nodeUnless (ends : List Token) (read : Reader Node) : Reader Node := do
  if ← nextIn ends then return .empty else read

/-- The key of a pair that is an item in brackets. Where it has not been written, the token in its
place is passed. -/
def itemKey (read : Reader Node) : Reader Node := do
  if ← nextIn [.value, .comma, .rightBracket] then
    pass
    return .empty
  else read

mutual

/-- A node. In brackets no collection is shown by indentation; as part of a mapping, a sequence
may stand at the column of its key. -/
def node (inBlock besideKey : Bool) : Nat → Reader Node
  | 0 => failure
  | fuel + 1 => do
    match ← peek with
    | some (.reference a) =>
      pass
      let number ← ((← get).names.lookup a : Option Nat)
      return .reference number
    | _ =>
      let (name, isTagged) ← properties
      named name (contents inBlock besideKey (name.isSome || isTagged) fuel)

/-- A node behind its anchor and its tag; if it has one, nothing else need be there. -/
def contents (inBlock besideKey mayBeEmpty : Bool) : Nat → Reader Node
  | 0 => failure
  | fuel + 1 => do
    match ← peek, inBlock, besideKey with
    | some (.scalar s), _, _ =>
      pass
      return .scalar s
    | some .leftBracket, _, _ =>
      pass
      .sequence <$> bracketItems true fuel
    | some .leftBrace, _, _ =>
      pass
      .mapping <$> bracePairs true fuel
    | some .openSequence, true, _ =>
      pass
      let items ← blockItems [.entry, .close] fuel
      expect .close
      return .sequence items
    | some .openMapping, true, _ =>
      pass
      .mapping <$> blockPairs fuel
    | some .entry, _, true => .sequence <$> blockItems [.entry, .key, .value, .close] fuel
    | _, _, _ =>
      guard mayBeEmpty
      return .empty

/-- The items of a sequence that is shown by indentation; an item that is empty ends in front of
one of some tokens. -/
def blockItems (ends : List Token) : Nat → Reader (List Node)
  | 0 => failure
  | fuel + 1 => do
    if ← passed .entry then
      let item ← nodeUnless ends (node true false fuel)
      return item :: (← blockItems ends fuel)
    else return []

/-- The pairs of a mapping that is shown by indentation. -/
def blockPairs : Nat → Reader (List (Node × Node))
  | 0 => failure
  | fuel + 1 => do
    if ← passed .key then
      let k ← nodeUnless [.key, .value, .close] (node true true fuel)
      let v ←
        if ← passed .value then nodeUnless [.key, .value, .close] (node true true fuel)
        else pure .empty
      return (k, v) :: (← blockPairs fuel)
    else
      expect .close
      return []

/-- The items of a sequence in brackets; an item may be a pair. -/
def bracketItems (isFirst : Bool) : Nat → Reader (List Node)
  | 0 => failure
  | fuel + 1 => do
    if ← passed .rightBracket then return []
    unless isFirst do
      expect .comma
    if ← passed .rightBracket then return []
    let item ←
      if ← passed .key then
        let k ← itemKey (node false false fuel)
        let v ←
          if ← passed .value then nodeUnless [.comma, .rightBracket] (node false false fuel)
          else pure .empty
        pure (.mapping [(k, v)])
      else node false false fuel
    return item :: (← bracketItems false fuel)

/-- The pairs of a mapping in braces; a value may be missing. -/
def bracePairs (isFirst : Bool) : Nat → Reader (List (Node × Node))
  | 0 => failure
  | fuel + 1 => do
    if ← passed .rightBrace then return []
    unless isFirst do
      expect .comma
    if ← passed .rightBrace then return []
    let isMarked ← passed .key
    let k ←
      if isMarked then nodeUnless [.value, .comma, .rightBrace] (node false false fuel)
      else node false false fuel
    let hasValue ← if isMarked then passed .value else pure false
    let v ←
      if hasValue then nodeUnless [.comma, .rightBrace] (node false false fuel)
      else pure .empty
    return (k, v) :: (← bracePairs false fuel)

end

/-- The lines about a document in front of it. Its version is given once at most, and so is each
handle. -/
def directives (seen : List (Option (List Char))) : Nat → Reader Unit
  | 0 => failure
  | fuel + 1 => do
    match ← peek with
    | some (.directive h) =>
      guard !(seen.contains h)
      pass
      modify fun r => { r with handles := h.toList ++ r.handles }
      directives (h :: seen) fuel
    | _ => return ()

/-- The node of a text with one document or none. -/
def document (fuel : Nat) : Reader (Option Node) := do
  let r ← get
  match r.tokens with
  | [] => return none
  | .directive _ :: _ | .documentStart :: _ =>
    directives [] fuel
    expect .documentStart
    let isBare := match (← get).tokens with
      | [] | .documentStart :: _ | .documentEnd :: _ | .directive _ :: _ => true
      | _ => false
    some <$> (if isBare then pure Node.empty else node true false fuel)
  | _ => some <$> node true false fuel

/-- The document of a text; a text with two is none. -/
def Document.ofText? (text : List Char) : Option Document := do
  let tokens ← tokens? text
  let (root, r) ← (document (4 * tokens.length + 8)).run { tokens }
  guard (r.tokens.all (· == .documentEnd))
  return ⟨root, r.numbered⟩

end Yaml
end SchemaMap
