import ProblemBoard.Json.Node
import Std.Data.ExtTreeMap

/-! # JSON values

The values of free-form JSON: those that widget fields hold, and those that the board itself writes.
A value that was read has the members of each object in ascending order of their keys, without
repetition, and at most 127 arrays and objects around each other.

`compact` and `pretty` are the two written forms. The compact form is the text of a list of tokens,
so that it can be compared with what the reader makes of it.
-/

namespace ProblemBoard

open Json (Number Token Quoted Numeral Node)

/-- A JSON value. -/
inductive Json where
  | null
  | bool (value : Bool)
  | number (value : Number)
  | string (value : String)
  | array (items : List Json)
  | object (members : List (String × Json))

namespace Json

/-- The value of a natural number. -/
def nat (value : Nat) : Json := .number (.int value)

/-- The value of an integer. -/
def int (value : Int) : Json := .number (.int value)

/-- The members of an object under distinct keys, in ascending order. Of members with one key the
last is kept. -/
def sortedMembers (members : List (String × Json)) : List (String × Json) :=
  (Std.ExtTreeMap.ofList members compare).toList

/-- The number of arrays and objects that may stand around each other. -/
def depthLimit : Nat := 127

mutual

/-- The value of a node that has `depth` arrays and objects around it. There is none if the text
breaks off inside, a string stands for no text, a number is out of range, or arrays and objects stand
too deep. -/
def ofNode? (depth : Nat) : Node → Option Json
  | .broken => none
  | .null => some .null
  | .bool value => some (.bool value)
  | .number numeral => numeral.number?.map .number
  | .string quoted => quoted.text?.map .string
  | .array items closed =>
      if closed && decide (depth < depthLimit) then (ofNodes? (depth + 1) items).map .array else none
  | .object members closed =>
      if closed && decide (depth < depthLimit) then
        (ofMembers? (depth + 1) members).map fun members => .object (sortedMembers members)
      else none

/-- The values of some nodes. -/
def ofNodes? (depth : Nat) : List Node → Option (List Json)
  | [] => some []
  | node :: rest =>
      match ofNode? depth node, ofNodes? depth rest with
      | some value, some values => some (value :: values)
      | _, _ => none

/-- The members of an object, in the order in which they are written. -/
def ofMembers? (depth : Nat) : List (Quoted × Node) → Option (List (String × Json))
  | [] => some []
  | (key, node) :: rest =>
      match key.text?, ofNode? depth node, ofMembers? depth rest with
      | some key, some value, some members => some ((key, value) :: members)
      | _, _, _ => none

end

/-- The value of a text that consists of exactly one value. -/
def ofText? (text : String) : Option Json :=
  let document := Document.ofText text
  if document.complete then ofNode? 0 document.root else none

mutual

/-- The node that a written value is read as. -/
def toNode : Json → Node
  | .null => .null
  | .bool value => .bool value
  | .number value => .number value.numeral
  | .string value => .string (.ofText value)
  | .array items => .array (toNodes items) true
  | .object members => .object (toMembers members) true

def toNodes : List Json → List Node
  | [] => []
  | value :: rest => toNode value :: toNodes rest

def toMembers : List (String × Json) → List (Quoted × Node)
  | [] => []
  | (key, value) :: rest => (.ofText key, toNode value) :: toMembers rest

end

mutual

/-- The tokens that write a value. -/
def toTokens : Json → List Token
  | .null => [.null]
  | .bool value => [.bool value]
  | .number value => [.number value.numeral]
  | .string value => [.string (.ofText value)]
  | .array items => .openArray :: itemTokens items ++ [.closeArray]
  | .object members => .openObject :: memberTokens members ++ [.closeObject]

/-- The tokens of the items of an array. -/
def itemTokens : List Json → List Token
  | [] => []
  | [value] => toTokens value
  | value :: rest => toTokens value ++ .comma :: itemTokens rest

/-- The tokens of the members of an object. -/
def memberTokens : List (String × Json) → List Token
  | [] => []
  | [(key, value)] => .string (.ofText key) :: .colon :: toTokens value
  | (key, value) :: rest =>
      .string (.ofText key) :: .colon :: toTokens value ++ .comma :: memberTokens rest

end

/-- The text of a value, without blanks. -/
def compact (value : Json) : String := String.ofList (value.toTokens.flatMap Token.chars)

/-- The text of a string, with its quotes. -/
def quote (text : String) : String := String.ofList (Quoted.ofText text).chars

/-- The start of a line at some depth. -/
def newLine (depth : Nat) : String := "\n" ++ String.ofList (List.replicate (2 * depth) ' ')

mutual

/-- The text of a value, spread over lines. -/
def prettyAt (depth : Nat) : Json → String
  | .array [] => "[]"
  | .array items => "[" ++ prettyItems (depth + 1) items ++ newLine depth ++ "]"
  | .object [] => "\x7b\x7d"
  | .object members => "\x7b" ++ prettyMembers (depth + 1) members ++ newLine depth ++ "\x7d"
  | .null => compact .null
  | .bool value => compact (.bool value)
  | .number value => compact (.number value)
  | .string value => compact (.string value)

def prettyItems (depth : Nat) : List Json → String
  | [] => ""
  | [value] => newLine depth ++ prettyAt depth value
  | value :: rest => newLine depth ++ prettyAt depth value ++ "," ++ prettyItems depth rest

def prettyMembers (depth : Nat) : List (String × Json) → String
  | [] => ""
  | [(key, value)] => newLine depth ++ quote key ++ ": " ++ prettyAt depth value
  | (key, value) :: rest =>
      newLine depth ++ quote key ++ ": " ++ prettyAt depth value ++ "," ++ prettyMembers depth rest

end

/-- The text of a value over several lines: items and members stand on lines of their own, indented by
two blanks for each level, and a blank follows each colon. -/
def pretty (value : Json) : String := prettyAt 0 value

/-- The value of a member of an object. -/
def member? (key : String) : Json → Option Json
  | .object members => members.lookup key
  | _ => none

/-- The text of a string. -/
def text? : Json → Option String
  | .string value => some value
  | _ => none

/-- A whole number of at most 64 bits, without sign. -/
def natural? : Json → Option UInt64
  | .number value => value.natural?
  | _ => none

end Json

end ProblemBoard
