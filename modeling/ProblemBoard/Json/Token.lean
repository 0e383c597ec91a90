import ProblemBoard.Json.Numeral
import ProblemBoard.Json.Quoted

/-! # JSON text as tokens

A text is cut into tokens character by character. The cutter is a machine whose state holds what is
known of the token under way. Where the text leaves the grammar of tokens, the special token `bad`
takes the place of everything that follows; a numeral that could end there still counts.
-/

namespace ProblemBoard.Json

open Decimal

/-- The units of JSON text. -/
inductive Token where
  | openArray
  | closeArray
  | openObject
  | closeObject
  | comma
  | colon
  | null
  | bool (value : Bool)
  | number (numeral : Numeral)
  | string (quoted : Quoted)
  /-- The place at which a text stops making sense. -/
  | bad
  deriving DecidableEq, Repr

/-- A token as text. -/
def Token.chars : Token → List Char
  | openArray => ['[']
  | closeArray => [']']
  | openObject => ['\x7b']
  | closeObject => ['\x7d']
  | comma => [',']
  | colon => [':']
  | null => ['n', 'u', 'l', 'l']
  | bool true => ['t', 'r', 'u', 'e']
  | bool false => ['f', 'a', 'l', 's', 'e']
  | number numeral => numeral.chars
  | string quoted => quoted.chars
  | bad => []

/-- The part of a numeral that a cutter is in. -/
inductive NumeralPart where
  /-- After the sign. -/
  | start
  /-- After a leading zero. -/
  | zero
  | whole
  /-- After the point. -/
  | point
  | fraction
  /-- After the letter that begins the exponent. -/
  | letter
  /-- After the sign of the exponent. -/
  | sign
  | exponent
  deriving DecidableEq, Repr

/-- What is known of the token under way. -/
inductive Cutter where
  /-- Between tokens. -/
  | idle
  /-- In a word, with the letters that are to come. -/
  | word (letters : List Char) (token : Token)
  /-- In a numeral, with what has been read of it. -/
  | numeral (part : NumeralPart) (numeral : Numeral)
  /-- In a string, with its pieces so far, last first. -/
  | string (pieces : List Piece)
  /-- After a backslash in a string. -/
  | escape (pieces : List Piece)
  /-- In the hexadecimal digits of an escape, with the digits that are to come and the value so far. -/
  | hex (pieces : List Piece) (toCome : Nat) (unit : Nat)
  /-- Behind the place at which the text stopped making sense. -/
  | lost
  deriving DecidableEq, Repr

namespace Cutter

/-- The blank characters between tokens. -/
def isSpace (c : Char) : Bool := c == ' ' || c == '\t' || c == '\n' || c == '\r'

/-- What is left of a text from a character on that makes no sense. -/
def lose : List Token × Cutter := ([.bad], lost)

/-- The first character of a token, or a blank. -/
def begin (c : Char) : List Token × Cutter :=
  if isSpace c then ([], idle)
  else
    match c with
    | '[' => ([.openArray], idle)
    | ']' => ([.closeArray], idle)
    | '\x7b' => ([.openObject], idle)
    | '\x7d' => ([.closeObject], idle)
    | ',' => ([.comma], idle)
    | ':' => ([.colon], idle)
    | 'n' => ([], word ['u', 'l', 'l'] .null)
    | 't' => ([], word ['r', 'u', 'e'] (.bool true))
    | 'f' => ([], word ['a', 'l', 's', 'e'] (.bool false))
    | '"' => ([], string [])
    | '-' => ([], numeral .start ⟨true, [], [], none⟩)
    | _ =>
        match digit? c with
        | some digit => ([], numeral (if digit.val = 0 then .zero else .whole) ⟨false, [digit], [], none⟩)
        | none => lose

/-- The numeral with one more digit in the part that the cutter is in, if a digit may stand there. -/
def addDigit? (digit : Digit) (numeral : Numeral) : NumeralPart → Option (NumeralPart × Numeral)
  | .start => some (if digit.val = 0 then .zero else .whole, { numeral with whole := [digit] })
  | .zero => none
  | .whole => some (.whole, { numeral with whole := numeral.whole ++ [digit] })
  | .point | .fraction => some (.fraction, { numeral with fraction := numeral.fraction ++ [digit] })
  | .letter | .sign | .exponent =>
      some (.exponent, { numeral with
        exponent := numeral.exponent.map fun exponent =>
          { exponent with digits := exponent.digits ++ [digit] } })

/-- Whether a numeral may end in a part. -/
def mayEnd : NumeralPart → Bool
  | .zero | .whole | .fraction | .exponent => true
  | .start | .point | .letter | .sign => false

/-- The next character of a numeral, or the first one behind it. -/
def stepNumeral (c : Char) (part : NumeralPart) (read : Numeral) : List Token × Cutter :=
  match digit? c with
  | some digit =>
      match addDigit? digit read part with
      | some (part, read) => ([], numeral part read)
      | none => lose
  | none =>
      match c, part with
      | '.', .zero | '.', .whole => ([], numeral .point read)
      | 'e', .zero | 'e', .whole | 'e', .fraction | 'E', .zero | 'E', .whole | 'E', .fraction =>
          ([], numeral .letter { read with exponent := some ⟨false, []⟩ })
      | '+', .letter => ([], numeral .sign read)
      | '-', .letter => ([], numeral .sign { read with exponent := some ⟨true, []⟩ })
      | _, _ =>
          if mayEnd part then
            let (tokens, cutter) := begin c
            (.number read :: tokens, cutter)
          else lose

/-- The next character of the text: the tokens that it completes, and the state behind it. -/
def step (c : Char) : Cutter → List Token × Cutter
  | idle => begin c
  | word [] _ => lose
  | word (letter :: rest) token =>
      if c = letter then
        if rest.isEmpty then ([token], idle) else ([], word rest token)
      else lose
  | numeral part read => stepNumeral c part read
  | string pieces =>
      if c = '"' then ([.string pieces.reverse], idle)
      else if c = '\\' then ([], escape pieces)
      else if c.toNat < 0x20 then lose
      else ([], string (.plain c :: pieces))
  | escape pieces =>
      if c = 'u' then ([], hex pieces 4 0)
      else
        match Piece.ofLetter? c with
        | some unit => ([], string (.escaped unit :: pieces))
        | none => lose
  | hex pieces toCome unit =>
      match Piece.hexDigit? c with
      | some digit =>
          let unit := 16 * unit + digit
          if toCome ≤ 1 then ([], string (.escaped unit.toUInt16 :: pieces))
          else ([], hex pieces (toCome - 1) unit)
      | none => lose
  | lost => ([], lost)

/-- The tokens that the end of the text completes. -/
def finish : Cutter → List Token
  | idle => []
  | lost => []
  | numeral part read => if mayEnd part then [.number read] else [.bad]
  | _ => [.bad]

/-- The tokens of a text, from a state on. -/
def run (cutter : Cutter) : List Char → List Token
  | [] => cutter.finish
  | c :: rest =>
      let (tokens, next) := cutter.step c
      tokens ++ next.run rest

end Cutter

/-- The tokens of a text. -/
def tokens (text : List Char) : List Token := Cutter.idle.run text

end ProblemBoard.Json
