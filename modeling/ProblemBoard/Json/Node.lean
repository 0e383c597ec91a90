import ProblemBoard.Json.Token

/-! # JSON text as a tree

A document is the tree of a text as far as the text makes sense. Where it stops making sense, all
arrays and objects then open stay unclosed, and a value that is missing there is `broken`. A reader
of models can so find out which of two faults comes first in the text: one in the values, or one in
the text itself. Everything written is kept as it was written, also numbers, repeated keys and
strings that stand for no text.
-/

namespace ProblemBoard.Json

/-- A value of a document. -/
inductive Node where
  /-- No value, where one was to be. -/
  | broken
  | null
  | bool (value : Bool)
  | number (numeral : Numeral)
  | string (quoted : Quoted)
  | array (items : List Node) (closed : Bool)
  | object (members : List (Quoted × Node)) (closed : Bool)

/-- A text read as JSON. -/
structure Document where
  root : Node
  /-- Whether the text ends with the value. -/
  complete : Bool

namespace Document

/-- An array or an object under way, without the value being read. Values and members are listed
last first. -/
inductive Frame where
  | array (items : List Node)
  | object (members : List (Quoted × Node)) (key : Quoted)

/-- What may come next. -/
inductive Place where
  | value
  /-- A value, or the end of an array without values. -/
  | firstItem
  /-- A key, or the end of an object without members. -/
  | firstKey
  /-- A key, after these members. -/
  | nextKey (members : List (Quoted × Node))
  /-- The colon after a key. -/
  | colon (members : List (Quoted × Node)) (key : Quoted)
  /-- Whatever may follow a value. -/
  | after (node : Node)

/-- The first token of a value. -/
def begin? (frames : List Frame) : Token → Option (Place × List Frame)
  | .null => some (.after .null, frames)
  | .bool value => some (.after (.bool value), frames)
  | .number numeral => some (.after (.number numeral), frames)
  | .string quoted => some (.after (.string quoted), frames)
  | .openArray => some (.firstItem, frames)
  | .openObject => some (.firstKey, frames)
  | _ => none

/-- The next token; there is no result if it may not come. -/
def step? : Place → List Frame → Token → Option (Place × List Frame)
  | .value, frames, token => begin? frames token
  | .firstItem, frames, .closeArray => some (.after (.array [] true), frames)
  | .firstItem, frames, token => begin? (.array [] :: frames) token
  | .firstKey, frames, .closeObject => some (.after (.object [] true), frames)
  | .firstKey, frames, .string key => some (.colon [] key, frames)
  | .nextKey members, frames, .string key => some (.colon members key, frames)
  | .colon members key, frames, .colon => some (.value, .object members key :: frames)
  | .after node, .array items :: frames, .comma => some (.value, .array (node :: items) :: frames)
  | .after node, .array items :: frames, .closeArray =>
      some (.after (.array (node :: items).reverse true), frames)
  | .after node, .object members key :: frames, .comma =>
      some (.nextKey ((key, node) :: members), frames)
  | .after node, .object members key :: frames, .closeObject =>
      some (.after (.object ((key, node) :: members).reverse true), frames)
  | _, _, _ => none

/-- A value with the unclosed arrays and objects around it. -/
def enclose (node : Node) : List Frame → Node
  | [] => node
  | .array items :: frames => enclose (.array (node :: items).reverse false) frames
  | .object members key :: frames =>
      enclose (.object ((key, node) :: members).reverse false) frames

/-- The tree of a text that ends, or stops making sense, at a place. -/
def abandon (frames : List Frame) : Place → Node
  | .value => enclose .broken frames
  | .firstItem => enclose (.array [] false) frames
  | .firstKey => enclose (.object [] false) frames
  | .nextKey members => enclose (.object members.reverse false) frames
  | .colon members key => enclose .broken (.object members key :: frames)
  | .after node => enclose node frames

/-- The document of some tokens, from a place on. -/
def run (place : Place) (frames : List Frame) : List Token → Document
  | [] => ⟨abandon frames place, true⟩
  | token :: rest =>
      match step? place frames token with
      | some (place, frames) => run place frames rest
      | none => ⟨abandon frames place, false⟩

/-- The document of a text. -/
def ofText (text : String) : Document := run .value [] (tokens text.toList)

end Document

end ProblemBoard.Json
