/-
# Tokens of a document of settings

A document is a list of tokens: its scalars and the signs around them, with the beginnings and ends
of its blocks made explicit.
-/
import Casebook.Yaml.Tag

namespace Casebook
namespace Yaml

/-- A token. -/
inductive Token where
  | directive (directive : Directive)
  /-- The mark that begins a document. -/
  | documentStart
  /-- The mark that ends a document. -/
  | documentEnd
  /-- The beginning of the items of a block. -/
  | blockItems
  /-- The beginning of the entries of a block. -/
  | blockEntries
  /-- The end of a block. -/
  | blockEnd
  | openSquare
  | closeSquare
  | openCurly
  | closeCurly
  | comma
  /-- The dash before an item. -/
  | dash
  /-- What precedes the key of an entry; the question mark of a key, where there is one. -/
  | key
  /-- The colon before the value of an entry. -/
  | value
  | anchor (name : String)
  | reference (name : String)
  | tag (tag : Tag)
  | scalar (style : Style) (text : String)
deriving Repr, DecidableEq

end Yaml
end Casebook
