/-! # Strings in JSON

A quoted string is read as a list of pieces: characters that stand for themselves, and 16-bit units
given by escapes. `text?` joins the pieces; it fails where a surrogate unit has no partner. For
writing, `ofText` escapes exactly the quote, the backslash and the control characters, and
`text?_ofText` says that what is written reads back.
-/

namespace ProblemBoard.Json

/-- One piece of a quoted string. -/
inductive Piece where
  /-- A character written as itself. -/
  | plain (c : Char)
  /-- A 16-bit unit written as an escape. -/
  | escaped (unit : UInt16)
  deriving DecidableEq, Repr

/-- A quoted string as written. -/
abbrev Quoted := List Piece

namespace Piece

/-- The unit of an escape of one letter, and the letter. -/
def letters : List (UInt16 × Char) :=
  [(0x22, '"'), (0x5C, '\\'), (0x2F, '/'), (0x08, 'b'), (0x0C, 'f'), (0x0A, 'n'), (0x0D, 'r'),
    (0x09, 't')]

/-- The unit that a letter after a backslash stands for. -/
def ofLetter? (c : Char) : Option UInt16 := (letters.find? (·.2 == c)).map Prod.fst

/-- The letter that stands for a unit after a backslash. -/
def letter? (unit : UInt16) : Option Char := (letters.find? (·.1 == unit)).map Prod.snd

/-- One hexadecimal digit. -/
def hexChar (digit : Nat) : Char := "0123456789abcdef".toList.getD digit '0'

/-- The value of a hexadecimal digit of either case. -/
def hexDigit? (c : Char) : Option Nat :=
  if '0' ≤ c ∧ c ≤ '9' then some (c.toNat - '0'.toNat)
  else if 'a' ≤ c ∧ c ≤ 'f' then some (c.toNat - 'a'.toNat + 10)
  else if 'A' ≤ c ∧ c ≤ 'F' then some (c.toNat - 'A'.toNat + 10)
  else none

/-- The four hexadecimal digits of a unit. -/
def hexDigits (unit : UInt16) : List Char :=
  let number := unit.toNat
  [hexChar (number / 4096), hexChar (number / 256 % 16), hexChar (number / 16 % 16),
    hexChar (number % 16)]

/-- A piece as text. -/
def chars : Piece → List Char
  | plain c => [c]
  | escaped unit =>
      match letter? unit with
      | some letter => ['\\', letter]
      | none => '\\' :: 'u' :: hexDigits unit

end Piece

namespace Quoted

def isHighSurrogate (unit : UInt16) : Bool := decide (0xD800 ≤ unit) && decide (unit ≤ 0xDBFF)

def isLowSurrogate (unit : UInt16) : Bool := decide (0xDC00 ≤ unit) && decide (unit ≤ 0xDFFF)

/-- The character that a pair of surrogate units stands for. -/
def ofSurrogates (high low : UInt16) : Char :=
  Char.ofNat (0x10000 + (high.toNat - 0xD800) * 0x400 + (low.toNat - 0xDC00))

/-- The characters that a quoted string stands for, unless a surrogate unit stands alone. -/
def chars? : Quoted → Option (List Char)
  | [] => some []
  | .plain c :: rest => (chars? rest).map (c :: ·)
  | .escaped unit :: rest =>
      if isHighSurrogate unit then
        match rest with
        | .escaped low :: rest =>
            if isLowSurrogate low then (chars? rest).map (ofSurrogates unit low :: ·) else none
        | _ => none
      else if isLowSurrogate unit then none
      else (chars? rest).map (Char.ofNat unit.toNat :: ·)

/-- The text that a quoted string stands for. -/
def text? (quoted : Quoted) : Option String := (chars? quoted).map String.ofList

/-- The text of a quoted string in which nothing is escaped. -/
def verbatim? (quoted : Quoted) : Option (List Char) :=
  quoted.mapM fun
    | .plain c => some c
    | .escaped _ => none

/-- Whether a character has to be escaped: quotes, backslashes and control characters have to. -/
def needsEscape (c : Char) : Bool := c == '"' || c == '\\' || decide (c.toNat < 0x20)

/-- The piece that writes a character. -/
def pieceOf (c : Char) : Piece := if needsEscape c then .escaped c.toNat.toUInt16 else .plain c

/-- The quoted string that writes some characters. -/
def ofChars (chars : List Char) : Quoted := chars.map pieceOf

/-- The quoted string that writes a text. -/
def ofText (text : String) : Quoted := ofChars text.toList

/-- A quoted string as text, with its quotes. -/
def chars (quoted : Quoted) : List Char := '"' :: quoted.flatMap Piece.chars ++ ['"']

theorem toNat_lt_of_needsEscape {c : Char} (special : needsEscape c = true) : c.toNat < 128 := by
  simp only [needsEscape, Bool.or_eq_true, beq_iff_eq, decide_eq_true_eq] at special
  rcases special with (rfl | rfl) | control
  · decide
  · decide
  · omega

theorem chars?_ofChars (text : List Char) : chars? (ofChars text) = some text := by
  induction text with
  | nil => rfl
  | cons c rest step =>
    rw [ofChars, List.map_cons, ← ofChars, pieceOf]
    by_cases special : needsEscape c = true
    · have small := toNat_lt_of_needsEscape special
      have unit_toNat : c.toNat.toUInt16.toNat = c.toNat :=
        UInt16.toNat_ofNat_of_lt' (by show c.toNat < 65536; omega)
      have not_high : isHighSurrogate c.toNat.toUInt16 = false := by
        simp [isHighSurrogate, UInt16.le_iff_toNat_le, unit_toNat]
        omega
      have not_low : isLowSurrogate c.toNat.toUInt16 = false := by
        simp [isLowSurrogate, UInt16.le_iff_toNat_le, unit_toNat]
        omega
      rw [if_pos special, chars?.eq_def]
      simp [not_high, not_low, unit_toNat, step, Char.ofNat_toNat]
    · rw [if_neg special, chars?, step]
      rfl

/-- What is written for a text reads back as that text. -/
@[simp] theorem text?_ofText (text : String) : text? (ofText text) = some text := by
  rw [text?, ofText, chars?_ofChars]
  simp

end Quoted

end ProblemBoard.Json
