/-
# Reading documents of settings

`Yaml.read?` reads the one document of a text from its tokens.  What is left out is blank: the
content of a document, an item behind its dash, a key, a value.

An anchor is numbered by how many names have been given before it; a name that is given again has
its new number from there on, and a reference goes to a name given earlier.  Two anchors can have
one number in this way, and then the later counts (`Yaml.follow`).

Each reader of items or entries takes a token before it goes on, and so does each node; so twice as
many steps as there are tokens are always enough.
-/
import Casebook.Yaml.Lexer

namespace Casebook
namespace Yaml

/-! ## 1. Tokens ahead -/

/-- How far the tokens of a document have been read. -/
structure Progress where
  tokens : List Token
  /-- What the handles of tags stand for. -/
  handles : List (String × String)
  /-- The names of anchors with their numbers, each name once. -/
  names : List (String × Nat) := []

/-- Reading from the tokens ahead. -/
abbrev Reading := StateT Progress Option

namespace Reading

/-- The next token, which stays. -/
def peek : Reading (Option Token) := return (← get).tokens.head?

/-- Goes past the next token. -/
def skip : Reading Unit := modify fun p => { p with tokens := p.tokens.tail }

/-- Goes past the next token if it is this one, and says whether it is. -/
def skipIf (token : Token) : Reading Bool := do
  if (← peek) = some token then
    skip
    return true
  else return false

/-- Goes past the next token, which is this one. -/
def require (token : Token) : Reading Unit := do
  if ← skipIf token then return () else failure

/-- Reads something, which is blank where one of these tokens comes next. -/
def unlessAt (tokens : List Token) (read : Reading Yaml) : Reading Yaml := do
  if (← peek).any tokens.contains then return blank else read

/-- Gives a number to the anchor with a name. -/
def giveName (name : String) : Reading Nat := do
  let names := (← get).names
  modify fun p => { p with names := (name, names.length) :: names.filter (·.1 != name) }
  return names.length

/-- Reads an anchor, if there is one. -/
def anchor? : Reading (Option Nat) := do
  match ← peek with
  | some (.anchor name) =>
    skip
    return some (← giveName name)
  | _ => return none

/-- Reads a tag, if there is one. -/
def tag? : Reading (Option String) := do
  match ← peek with
  | some (.tag tag) =>
    skip
    return some (← tag.resolve? (← get).handles)
  | _ => return none

/-- Reads an anchor and a tag, each at most once, in either order. -/
def properties : Reading (Option Nat × Option String) := do
  let before ← anchor?
  let tag ← tag?
  let behind ← if before.isNone then anchor? else pure none
  return (before.or behind, tag)

end Reading

open Reading

/-! ## 2. Nodes -/

mutual

/-- Reads a node.  The sequences and mappings of a block are nodes where `inBlock` says so, and
where `dashes` does the items of a sequence may follow without an indentation of their own.  An
anchor or a tag alone is that of a blank, and a scalar with an exclamation mark for a tag has none.
-/
def readNode : Nat → (inBlock dashes : Bool) → Reading Yaml
  | 0, _, _ => failure
  | fuel + 1, inBlock, dashes => do
    if let some (.reference name) ← peek then
      skip
      return .reference (← (← get).names.lookup name)
    let (anchor, tag) ← properties
    let node ← match ← peek, inBlock, dashes with
      | some (.scalar style text), _, _ =>
        skip
        pure (.scalar style (if tag = some "!" then none else tag) text)
      | some .openSquare, _, _ =>
        skip
        pure (.sequence (← readItems fuel true))
      | some .openCurly, _, _ =>
        skip
        pure (.mapping (← readEntries fuel true))
      | some .blockItems, true, _ =>
        skip
        pure (.sequence (← readBlockItems fuel))
      | some .blockEntries, true, _ =>
        skip
        pure (.mapping (← readBlockEntries fuel))
      | some .dash, _, true => pure (.sequence (← readDashes fuel))
      | _, _, _ => if anchor.isSome || tag.isSome then pure (.scalar .plain tag "") else failure
    return match anchor with
      | some anchor => .anchored anchor node
      | none => node

/-- Reads the items of a block up to its end. -/
def readBlockItems : Nat → Reading (List Yaml)
  | 0 => failure
  | fuel + 1 => do
    if ← skipIf .dash then
      let item ← unlessAt [.dash, .blockEnd] (readNode fuel true false)
      return item :: (← readBlockItems fuel)
    else if ← skipIf .blockEnd then return []
    else failure

/-- Reads items without an indentation of their own; they end before a token that begins no item. -/
def readDashes : Nat → Reading (List Yaml)
  | 0 => failure
  | fuel + 1 => do
    if ← skipIf .dash then
      let item ← unlessAt [.dash, .key, .value, .blockEnd] (readNode fuel true false)
      return item :: (← readDashes fuel)
    else return []

/-- Reads the entries of a block up to its end. -/
def readBlockEntries : Nat → Reading (List (Yaml × Yaml))
  | 0 => failure
  | fuel + 1 => do
    if ← skipIf .key then
      let part := unlessAt [.key, .value, .blockEnd] (readNode fuel true true)
      let key ← part
      let value ← if ← skipIf .value then part else pure blank
      return (key, value) :: (← readBlockEntries fuel)
    else if ← skipIf .blockEnd then return []
    else failure

/-- Reads items up to the closing bracket; with a key an item is a mapping of one entry. -/
def readItems : Nat → (first : Bool) → Reading (List Yaml)
  | 0, _ => failure
  | fuel + 1, first => do
    if ← skipIf .closeSquare then return []
    unless first do require .comma
    if ← skipIf .closeSquare then return []
    let item ←
      if ← skipIf .key then pure (.mapping [← readPair fuel]) else readNode fuel false false
    return item :: (← readItems fuel false)

/-- Reads the entry that is an item in brackets.  Where its key is blank the token behind is lost.
-/
def readPair : Nat → Reading (Yaml × Yaml)
  | 0 => failure
  | fuel + 1 => do
    let key ← match ← peek with
      | some .value | some .comma | some .closeSquare =>
        skip
        pure blank
      | _ => readNode fuel false false
    let value ←
      if ← skipIf .value then unlessAt [.comma, .closeSquare] (readNode fuel false false)
      else pure blank
    return (key, value)

/-- Reads entries up to the closing brace; a node alone is a key without a value. -/
def readEntries : Nat → (first : Bool) → Reading (List (Yaml × Yaml))
  | 0, _ => failure
  | fuel + 1, first => do
    if ← skipIf .closeCurly then return []
    unless first do require .comma
    if ← skipIf .closeCurly then return []
    let entry ←
      if ← skipIf .key then
        let key ← unlessAt [.value, .comma, .closeCurly] (readNode fuel false false)
        let value ←
          if ← skipIf .value then unlessAt [.comma, .closeCurly] (readNode fuel false false)
          else pure blank
        pure (key, value)
      else pure (← readNode fuel false false, blank)
    return entry :: (← readEntries fuel false)

end

/-! ## 3. Documents -/

/-- The directives in front of a document, and the tokens behind them. -/
def directivesOf : List Token → List Directive × List Token
  | .directive directive :: rest =>
    let (directives, rest) := directivesOf rest
    (directive :: directives, rest)
  | tokens => ([], tokens)

/-- Whether a document that has a mark of its beginning ends before its content. -/
def isVoid : List Token → Bool
  | [] => true
  | .directive _ :: _ => true
  | .documentStart :: _ => true
  | .documentEnd :: _ => true
  | _ => false

/-- Reads a node and gives the tokens behind it. -/
def readFrom? (handles : List (String × String)) (tokens : List Token) :
    Option (Yaml × List Token) := do
  let (node, last) ← (readNode (2 * tokens.length + 2) true false).run { tokens, handles }
  return (node, last.tokens)

/-- Reads the one document of some tokens: behind directives it has a mark of its beginning, and
behind it there are only marks of its end. -/
def ofTokens? (tokens : List Token) : Option Yaml := do
  if tokens.isEmpty then return blank
  let (directives, tokens) := directivesOf tokens
  let handles ← Directive.handles? directives
  let (document, rest) ← match tokens with
    | .documentStart :: body =>
      if isVoid body then some (blank, body) else readFrom? handles body
    | _ => if directives.isEmpty then readFrom? handles tokens else none
  if rest.all (· == .documentEnd) then return document else none

/-- Reads the one document of a text; a text without tokens is a blank one. -/
def read? (text : String) : Option Yaml := do
  ofTokens? (← Token.ofText? text)

end Yaml
end Casebook
