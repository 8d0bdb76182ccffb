/-
# From a text to its tokens

A `Lexer` has read the tokens up to a position.  It knows the columns of the blocks that are open
and whether the key of an entry may have begun: only the colon behind a key tells, and then the
token before the key, and the beginning of a block where there is one, are put in at its place.

A key ends on the line on which it begins, within 1024 columns (`PossibleKey.expired`).
-/
import Casebook.Yaml.Block
import Casebook.Yaml.Token

namespace Casebook
namespace Yaml

/-! ## 1. Where a text has been read to -/

/-- A place where a key may have begun. -/
structure PossibleKey where
  /-- The number of the tokens before it. -/
  place : Nat
  line : Nat
  column : Nat
  /-- Whether nothing but a key may stand there. -/
  required : Bool

namespace PossibleKey

/-- Whether no colon from here on makes a key of what began there. -/
def expired (key : PossibleKey) (c : Cursor) : Bool :=
  key.line < c.line || key.column + 1024 < c.column

/-- Gives a place up; one where nothing but a key may stand cannot be given up. -/
def giveUp? (key : Option PossibleKey) : Option (Option PossibleKey) :=
  if key.any (·.required) then none else some none

/-- Gives a place up if it has expired. -/
def refresh? (c : Cursor) (key : Option PossibleKey) : Option (Option PossibleKey) :=
  if key.any (·.expired c) then giveUp? key else some key

end PossibleKey

/-- A text read up to a position. -/
structure Lexer where
  cursor : Cursor
  tokens : Array Token := #[]
  /-- The columns of the open blocks, innermost first. -/
  columns : List Nat := []
  /-- Whether a key may begin at the position. -/
  keyAllowed : Bool := true
  /-- Where a key may have begun inside the innermost brackets. -/
  key : Option PossibleKey := none
  /-- The same for what surrounds each pair of open brackets, innermost first. -/
  outerKeys : List (Option PossibleKey) := []

namespace Lexer

/-- Whether the position is inside of brackets. -/
def inBrackets (l : Lexer) : Bool := !l.outerKeys.isEmpty

/-- The least column at which something inside the innermost open block may stand. -/
def least (l : Lexer) : Nat :=
  match l.columns with
  | [] => 0
  | column :: _ => column + 1

/-- With one more token. -/
def push (l : Lexer) (token : Token) : Lexer := { l with tokens := l.tokens.push token }

/-- With one more token, which has some characters. -/
def take (l : Lexer) (token : Token) (length : Nat) : Lexer :=
  { l.push token with cursor := l.cursor.past length }

/-- With one more token, which reaches to a position. -/
def takeTo (l : Lexer) (token : Token) (last : Cursor) : Lexer :=
  { l.push token with cursor := last }

/-- With a token put in behind the first so many. -/
def insert (l : Lexer) (place : Nat) (token : Token) : Lexer :=
  { l with tokens := l.tokens.insertIdxIfInBounds place token }

/-- With a block opened before a token, if its column lies inside of the open ones; in brackets
there are no blocks. -/
def openBlock (l : Lexer) (column place : Nat) (token : Token) : Lexer :=
  if l.inBrackets || column < l.least then l
  else { l.insert place token with columns := column :: l.columns }

/-- With a block opened here. -/
def openBlockHere (l : Lexer) (token : Token) : Lexer :=
  l.openBlock l.cursor.column l.tokens.size token

/-- With the innermost blocks closed, as far as their columns say so; in brackets there are none. -/
def closeBlocks (l : Lexer) (ends : Nat → Bool) : Lexer :=
  if l.inBrackets then l
  else
    let closed := l.columns.takeWhile ends
    { l with
      columns := l.columns.dropWhile ends
      tokens := l.tokens ++ closed.map fun _ => Token.blockEnd }

/-- With all blocks closed. -/
def closeAll (l : Lexer) : Lexer := l.closeBlocks fun _ => true

/-- With the place where a key may have begun given up. -/
def giveUpKey? (l : Lexer) : Option Lexer := do
  return { l with key := ← PossibleKey.giveUp? l.key }

/-- Notes that a key may begin here, where one is allowed.  At the column of the innermost block
nothing but a key may stand. -/
def noteKey? (l : Lexer) : Option Lexer := do
  if !l.keyAllowed then return l
  let l ← l.giveUpKey?
  return { l with
    key := some {
      place := l.tokens.size
      line := l.cursor.line
      column := l.cursor.column
      required := !l.inBrackets && l.columns.head? == some l.cursor.column } }

/-- With another saying about whether a key may begin at the position. -/
def allowKey (l : Lexer) (keyAllowed : Bool) : Lexer := { l with keyAllowed }

/-! ## 2. Signs -/

/-- Reads a directive. -/
def readDirective? (l : Lexer) : Option Lexer := do
  let l ← l.closeAll.giveUpKey?
  let (directive, last) ← Directive.read? l.cursor
  return (l.allowKey false).takeTo (.directive directive) last

/-- Reads a mark that begins or ends a document. -/
def readDocumentMark? (l : Lexer) (token : Token) : Option Lexer := do
  return ((← l.closeAll.giveUpKey?).allowKey false).take token 3

/-- Reads an opening bracket, with which a key may begin, as behind it. -/
def readOpening? (l : Lexer) (token : Token) : Option Lexer := do
  let l ← l.noteKey?
  return ({ l with key := none, outerKeys := l.key :: l.outerKeys }.allowKey true).take token 1

/-- Reads a closing bracket. -/
def readClosing? (l : Lexer) (token : Token) : Option Lexer := do
  let l ← l.giveUpKey?
  let l := match l.outerKeys with
    | [] => l
    | key :: outerKeys => { l with key, outerKeys }
  return (l.allowKey false).take token 1

/-- Reads a comma, behind which a key may begin. -/
def readComma? (l : Lexer) : Option Lexer := do
  return ((← l.giveUpKey?).allowKey true).take .comma 1

/-- Reads the dash of an item, behind which a key may begin. -/
def readDash? (l : Lexer) : Option Lexer := do
  if !l.inBrackets && !l.keyAllowed then none
  return ((← (l.openBlockHere .blockItems).giveUpKey?).allowKey true).take .dash 1

/-- Reads the question mark of a key. -/
def readQuestionMark? (l : Lexer) : Option Lexer := do
  if !l.inBrackets && !l.keyAllowed then none
  return ((← (l.openBlockHere .blockEntries).giveUpKey?).allowKey !l.inBrackets).take .key 1

/-- Reads the colon of a value: of the key that may have begun, or else of one that has been written
with a question mark. -/
def readColon? (l : Lexer) : Option Lexer :=
  match l.key with
  | some key =>
    let l := (l.insert key.place .key).openBlock key.column key.place .blockEntries
    some (({ l with key := none }.allowKey false).take .value 1)
  | none =>
    if !l.inBrackets && !l.keyAllowed then none
    else some (((l.openBlockHere .blockEntries).allowKey !l.inBrackets).take .value 1)

/-! ## 3. Words -/

/-- Reads a name behind its sign: at least one character, with the end of a token or a sign behind.
-/
def readName? (c : Cursor) : Option (String × Cursor) :=
  let (name, last) := (c.past 1).span isNameChar
  if !name.isEmpty && (endsToken last.rest ||
      last.rest.head?.any fun c => ['?', ':', ',', ']', '}', '%', '@', '`'].contains c) then
    some (String.ofList name, last)
  else none

/-- Reads something with which a key may begin, and behind which none may. -/
def readWord? (l : Lexer) (read : Cursor → Option (Token × Cursor)) : Option Lexer := do
  let l ← l.noteKey?
  let (token, last) ← read l.cursor
  return (l.allowKey false).takeTo token last

/-- Reads an anchor. -/
def readAnchor? (l : Lexer) : Option Lexer :=
  l.readWord? fun c => (readName? c).map fun (name, last) => (.anchor name, last)

/-- Reads a reference. -/
def readReference? (l : Lexer) : Option Lexer :=
  l.readWord? fun c => (readName? c).map fun (name, last) => (.reference name, last)

/-- Reads a tag. -/
def readTag? (l : Lexer) : Option Lexer :=
  l.readWord? fun c => (Tag.read? l.inBrackets c).map fun (tag, last) => (.tag tag, last)

/-- Reads a scalar in quotes, with the function that reads it from behind its first quote. -/
def readQuoted? (l : Lexer) (read : Nat → Nat → List Char → Option (String × Cursor)) :
    Option Lexer :=
  l.readWord? fun c =>
    (read c.line (c.column + 1) (c.rest.drop 1)).map fun (text, last) =>
      (.scalar .quoted text, last)

/-- Reads a plain scalar; where a line ends behind it, a key may begin after it. -/
def readPlain? (l : Lexer) : Option Lexer := do
  let l ← l.noteKey?
  let (folded, last) ←
    readPlain l.inBrackets l.least {} l.cursor.line l.cursor.column l.cursor.rest
  return (l.allowKey folded.gap.isBroken).takeTo (.scalar .plain folded.textBeforeGap) last

/-- Reads a block of text, behind which a key may begin; in brackets there is none. -/
def readBlock? (l : Lexer) (style : Style) : Option Lexer := do
  if l.inBrackets then none
  let l ← l.giveUpKey?
  let (text, last) ← Yaml.readBlock? (style == .folded) l.least (l.cursor.past 1)
  return (l.allowKey true).takeTo (.scalar style text) last

/-! ## 4. All tokens -/

/-- Goes on to the next token: gives up places where no key can have begun any more, and closes the
blocks that it does not belong to. -/
def advance? (l : Lexer) : Option Lexer := do
  let (cursor, keyAllowed) :=
    Cursor.skip l.inBrackets false l.cursor.line l.cursor.column l.keyAllowed l.cursor.rest
  let key ← PossibleKey.refresh? cursor l.key
  let outerKeys ← l.outerKeys.mapM (PossibleKey.refresh? cursor)
  return { l with cursor, keyAllowed, key, outerKeys }.closeBlocks (cursor.column < ·)

/-- Reads the token that begins with a character. -/
def readToken? (l : Lexer) (c : Char) (rest : List Char) : Option Lexer :=
  let signs := l.inBrackets || endsToken rest
  if c = '%' ∧ l.cursor.column = 0 then l.readDirective?
  else if isDocumentMark l.cursor.column (c :: rest) then
    l.readDocumentMark? (if c = '-' then .documentStart else .documentEnd)
  else match c with
    | '[' => l.readOpening? .openSquare
    | '{' => l.readOpening? .openCurly
    | ']' => l.readClosing? .closeSquare
    | '}' => l.readClosing? .closeCurly
    | ',' => l.readComma?
    | '-' => if endsToken rest then l.readDash? else l.readPlain?
    | '?' => if signs then l.readQuestionMark? else l.readPlain?
    | ':' => if signs then l.readColon? else l.readPlain?
    | '&' => l.readAnchor?
    | '*' => l.readReference?
    | '!' => l.readTag?
    | '|' => l.readBlock? .literal
    | '>' => l.readBlock? .folded
    | '\'' => l.readQuoted? (readSingle {})
    | '"' => l.readQuoted? fun line column => readDouble {} line column .none
    | '\t' | '#' | '%' | '@' | '`' => none
    | _ => l.readPlain?

/-- Reads all tokens; each has at least one character. -/
def run : Nat → Lexer → Option (List Token)
  | 0, _ => none
  | fuel + 1, l => do
    let l ← l.advance?
    match l.cursor.rest with
    | [] => return (← l.closeAll.giveUpKey?).tokens.toList
    | c :: rest => run fuel (← l.readToken? c rest)

end Lexer

/-- The tokens of a text. -/
def Token.ofText? (text : String) : Option (List Token) := do
  let start ← Cursor.start? text
  Lexer.run (start.rest.length + 1) { cursor := start }

end Yaml
end Casebook
