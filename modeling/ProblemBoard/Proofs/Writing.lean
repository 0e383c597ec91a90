import ProblemBoard.Json.Value

/-! # Written JSON reads back

A written value is cut into the tokens that write it, and these tokens make up the document of the
value. So the text of a value in which all numbers are integers has that value for its tree, with nothing
behind it. A numeral is the only token that the characters behind it could extend; in written values
a comma, a closing bracket, a line end or the end of the text follows it. Blanks between tokens do no harm,
so the text that is spread over lines has the same tree.
-/

namespace ProblemBoard

open Decimal Json

/-- The digits of a number other than zero do not begin with a zero. -/
theorem Decimal.exists_digits_of_pos {number : Nat} (positive : 0 < number) :
    ∃ first rest, digits number = first :: rest ∧ first.val ≠ 0 := by
  induction number using Nat.strongRecOn with
  | ind number ih =>
    by_cases small : number < 10
    · exact ⟨⟨number, small⟩, [], digits_of_lt small, Nat.ne_of_gt positive⟩
    · obtain ⟨first, rest, written, nonzero⟩ := ih (number / 10) (by omega) (by omega)
      exact ⟨first, _, by rw [digits_of_le (by omega), written, List.cons_append], nonzero⟩

namespace Json.Cutter

section Strings

variable {pieces : List Piece} {rest : List Char}

theorem hexDigit?_hexChar {digit : Nat} (bound : digit < 16) :
    Piece.hexDigit? (Piece.hexChar digit) = some digit := by
  revert digit
  decide

theorem ofLetter?_of_letter? {unit : UInt16} {letter : Char} (written : Piece.letter? unit = some letter) :
    letter ≠ 'u' ∧ Piece.ofLetter? letter = some unit := by
  have table : ∀ entry ∈ Piece.letters, entry.2 ≠ 'u' ∧ Piece.ofLetter? entry.2 = some entry.1 := by
    decide
  simp only [Piece.letter?, Option.map_eq_some_iff] at written
  obtain ⟨entry, found, rfl⟩ := written
  obtain rfl : entry.1 = unit := by simpa using List.find?_some found
  exact table entry (List.mem_of_find?_eq_some found)

theorem run_hexChar {toCome unit digit : Nat} (more : 1 < toCome) (bound : digit < 16) :
    (hex pieces toCome unit).run (Piece.hexChar digit :: rest) =
      (hex pieces (toCome - 1) (16 * unit + digit)).run rest := by
  simp only [run, step, hexDigit?_hexChar bound, if_neg (Nat.not_le_of_gt more), List.nil_append]

theorem run_lastHexChar {unit digit : Nat} (bound : digit < 16) :
    (hex pieces 1 unit).run (Piece.hexChar digit :: rest) =
      (string (.escaped (16 * unit + digit).toUInt16 :: pieces)).run rest := by
  simp only [run, step, hexDigit?_hexChar bound, Nat.le_refl, if_true, List.nil_append]

/-- An escape is read as the unit that it was written for. -/
theorem run_escaped (unit : UInt16) :
    (string pieces).run ((Piece.escaped unit).chars ++ rest) =
      (string (.escaped unit :: pieces)).run rest := by
  rw [Piece.chars]
  split
  · next letter written =>
    obtain ⟨differ, read⟩ := ofLetter?_of_letter? written
    change (escape pieces).run (letter :: rest) = _
    simp only [run, step, if_neg differ, read, List.nil_append]
  · next unwritten =>
    have size := unit.toNat_lt
    have whole : 16 * (16 * (16 * (16 * 0 + unit.toNat / 4096) + unit.toNat / 256 % 16) +
        unit.toNat / 16 % 16) + unit.toNat % 16 = unit.toNat := by omega
    change (hex pieces 4 0).run (Piece.hexDigits unit ++ rest) = _
    simp only [Piece.hexDigits, List.cons_append, List.nil_append]
    rw [run_hexChar (by decide) (by omega), run_hexChar (by decide) (by omega),
      run_hexChar (by decide) (by omega), run_lastHexChar (by omega), whole]
    simp

theorem run_pieceOf (c : Char) :
    (string pieces).run ((Quoted.pieceOf c).chars ++ rest) =
      (string (Quoted.pieceOf c :: pieces)).run rest := by
  rw [Quoted.pieceOf]
  split
  · exact run_escaped _
  · next plain =>
    simp only [Quoted.needsEscape, Bool.or_eq_true, beq_iff_eq, decide_eq_true_eq, not_or] at plain
    obtain ⟨⟨quote, backslash⟩, control⟩ := plain
    change (string pieces).run (c :: rest) = _
    simp only [run, step, if_neg quote, if_neg backslash, if_neg control, List.nil_append]

theorem run_ofChars (text : List Char) :
    (string pieces).run ((Quoted.ofChars text).flatMap Piece.chars ++ '"' :: rest) =
      .string (pieces.reverse ++ Quoted.ofChars text) :: idle.run rest := by
  induction text generalizing pieces with
  | nil => simp [Quoted.ofChars, run, step]
  | cons c text ih =>
    have written : Quoted.ofChars (c :: text) = Quoted.pieceOf c :: Quoted.ofChars text := rfl
    rw [written, List.flatMap_cons, List.append_assoc, run_pieceOf, ih]
    simp

/-- The text of a string is one token. -/
theorem run_string (text : String) :
    idle.run ((Token.string (.ofText text)).chars ++ rest) = .string (.ofText text) :: idle.run rest := by
  have begun : idle.run ((Token.string (.ofText text)).chars ++ rest) =
      (string []).run ((Quoted.ofChars text.toList).flatMap Piece.chars ++ '"' :: rest) := by
    simp [Token.chars, Quoted.chars, Quoted.ofText, run, step, begin, isSpace]
  rw [begun, run_ofChars]
  rfl

end Strings

section Numerals

variable {rest : List Char}

/-- The rest of a text begins with nothing that a numeral could go on with. -/
def Closes (rest : List Char) : Prop := ∀ c ∈ rest.head?, c = ',' ∨ c = ']' ∨ c = '\x7d' ∨ c = '\n'

theorem run_numeral_closed {part : NumeralPart} {read : Numeral} (complete : mayEnd part = true)
    (closes : Closes rest) : (numeral part read).run rest = .number read :: idle.run rest := by
  cases rest with
  | nil => simp [run, finish, complete]
  | cons c rest =>
    have stepped : step c (numeral part read) = (.number read :: (begin c).1, (begin c).2) := by
      rcases closes c rfl with rfl | rfl | rfl | rfl <;> cases part <;> first | rfl | cases complete
    rw [run, stepped]
    rfl

theorem run_digits {read : Numeral} (whole : List Digit) (closes : Closes rest) :
    (numeral .whole read).run (whole.map digitChar ++ rest) =
      .number { read with whole := read.whole ++ whole } :: idle.run rest := by
  induction whole generalizing read with
  | nil => simpa using run_numeral_closed rfl closes
  | cons digit whole ih =>
    have stepped : step (digitChar digit) (numeral .whole read) =
        ([], numeral .whole { read with whole := read.whole ++ [digit] }) := by
      simp [step, stepNumeral, addDigit?]
    simp only [List.map_cons, List.cons_append, run, stepped, List.nil_append, ih, List.append_assoc]

/-- The digits of a number after its sign. -/
theorem run_digits_start (negative : Bool) (number : Nat) (closes : Closes rest) (cutter : Cutter)
    (begins : ∀ digit : Digit, cutter.step (digitChar digit) =
      ([], numeral (if digit.val = 0 then .zero else .whole) ⟨negative, [digit], [], none⟩)) :
    cutter.run ((digits number).map digitChar ++ rest) =
      .number ⟨negative, digits number, [], none⟩ :: idle.run rest := by
  rcases Nat.eq_zero_or_pos number with rfl | positive
  · have zero : digits 0 = [0] := digits_of_lt (by decide)
    simp only [zero, List.map_cons, List.map_nil, List.cons_append, List.nil_append, run, begins]
    exact run_numeral_closed rfl closes
  · obtain ⟨first, whole, written, nonzero⟩ := exists_digits_of_pos positive
    simp only [written, List.map_cons, List.cons_append, run, begins, if_neg nonzero, List.nil_append,
      run_digits whole closes]

/-- The text of an integer is one token, if nothing behind it could go on with it. -/
theorem run_int (value : Int) (closes : Closes rest) :
    idle.run ((Token.number (.ofInt value)).chars ++ rest) = .number (.ofInt value) :: idle.run rest := by
  have begun : ∀ digit : Digit, idle.step (digitChar digit) =
      ([], numeral (if digit.val = 0 then .zero else .whole) ⟨false, [digit], [], none⟩) := by decide
  have afterSign (digit : Digit) : (numeral .start ⟨true, [], [], none⟩).step (digitChar digit) =
      ([], numeral (if digit.val = 0 then .zero else .whole) ⟨true, [digit], [], none⟩) := by
    simp [step, stepNumeral, addDigit?]
  by_cases negative : value < 0
  · have written : (Token.number (.ofInt value)).chars ++ rest =
        '-' :: ((digits value.natAbs).map digitChar ++ rest) := by
      simp [Token.chars, Numeral.chars, Numeral.ofInt, negative]
    have sign : idle.run ('-' :: ((digits value.natAbs).map digitChar ++ rest)) =
        (numeral .start ⟨true, [], [], none⟩).run ((digits value.natAbs).map digitChar ++ rest) := rfl
    rw [written, sign, run_digits_start true _ closes _ afterSign]
    simp [Numeral.ofInt, negative]
  · have written : (Token.number (.ofInt value)).chars ++ rest =
        (digits value.natAbs).map digitChar ++ rest := by
      simp [Token.chars, Numeral.chars, Numeral.ofInt, negative]
    rw [written, run_digits_start false _ closes _ begun]
    simp [Numeral.ofInt, negative]

end Numerals

end Json.Cutter

namespace Json

mutual

/-- All numbers in a value are integers of at most 64 bits. -/
def Whole : Json → Prop
  | .number (.int value) => -(Nat.pow 2 63 : Int) ≤ value ∧ value < Nat.pow 2 64
  | .number (.float _) => False
  | .array items => WholeItems items
  | .object members => WholeMembers members
  | _ => True

def WholeItems : List Json → Prop
  | [] => True
  | value :: rest => value.Whole ∧ WholeItems rest

def WholeMembers : List (String × Json) → Prop
  | [] => True
  | (_, value) :: rest => value.Whole ∧ WholeMembers rest

end

section Cutting

open Cutter

/-- A token of one character that begins no other token. -/
def IsMark (token : Token) : Prop :=
  token ∈ [Token.openArray, .closeArray, .openObject, .closeObject, .comma, .colon]

instance (token : Token) : Decidable (IsMark token) :=
  inferInstanceAs (Decidable (token ∈ [Token.openArray, .closeArray, .openObject, .closeObject,
    .comma, .colon]))

theorem run_mark {token : Token} (mark : IsMark token) (rest : List Char) :
    idle.run (token.chars ++ rest) = token :: idle.run rest := by
  simp only [IsMark, List.mem_cons, List.not_mem_nil, or_false] at mark
  rcases mark with rfl | rfl | rfl | rfl | rfl | rfl <;> rfl

theorem closes_comma (rest : List Char) : Closes (Token.comma.chars ++ rest) := by
  simp [Closes, Token.chars]

theorem closes_closeArray (rest : List Char) : Closes (Token.closeArray.chars ++ rest) := by
  simp [Closes, Token.chars]

theorem closes_closeObject (rest : List Char) : Closes (Token.closeObject.chars ++ rest) := by
  simp [Closes, Token.chars]

/-- The key of a member and its colon are two tokens. -/
theorem run_key (key : String) (rest : List Char) :
    idle.run ((Token.string (.ofText key)).chars ++ (Token.colon.chars ++ rest)) =
      .string (.ofText key) :: .colon :: idle.run rest := by
  rw [run_string, run_mark (by decide)]

mutual

/-- The text of a value is cut into the tokens that write it. -/
theorem run_toTokens : ∀ value : Json, value.Whole → ∀ rest, Closes rest →
    idle.run (value.toTokens.flatMap Token.chars ++ rest) = value.toTokens ++ idle.run rest
  | .null, _, rest, _ => rfl
  | .bool value, _, rest, _ => by cases value <;> rfl
  | .number (.int value), _, rest, closes => by
    simpa [toTokens, Number.numeral] using run_int value closes
  | .number (.float _), whole, _, _ => absurd whole id
  | .string text, _, rest, _ => by simpa [toTokens] using run_string text
  | .array items, whole, rest, _ => by
    have written := run_itemTokens items whole (Token.closeArray.chars ++ rest) (closes_closeArray rest)
    simp only [toTokens, List.flatMap_append, List.flatMap_cons, List.flatMap_nil, List.append_nil,
      List.cons_append, List.append_assoc]
    rw [run_mark (by decide), written, run_mark (by decide)]
    rfl
  | .object members, whole, rest, _ => by
    have written := run_memberTokens members whole (Token.closeObject.chars ++ rest) (closes_closeObject rest)
    simp only [toTokens, List.flatMap_append, List.flatMap_cons, List.flatMap_nil, List.append_nil,
      List.cons_append, List.append_assoc]
    rw [run_mark (by decide), written, run_mark (by decide)]
    rfl

theorem run_itemTokens : ∀ items : List Json, WholeItems items → ∀ rest, Closes rest →
    idle.run ((itemTokens items).flatMap Token.chars ++ rest) = itemTokens items ++ idle.run rest
  | [], _, _, _ => rfl
  | [value], whole, rest, closes => run_toTokens value whole.1 rest closes
  | value :: next :: more, whole, rest, closes => by
    have others := run_itemTokens (next :: more) whole.2 rest closes
    simp only [itemTokens, List.flatMap_append, List.flatMap_cons, List.append_assoc, List.cons_append]
    rw [run_toTokens value whole.1 _ (closes_comma _), run_mark (by decide), others]

theorem run_memberTokens : ∀ members : List (String × Json), WholeMembers members → ∀ rest, Closes rest →
    idle.run ((memberTokens members).flatMap Token.chars ++ rest) = memberTokens members ++ idle.run rest
  | [], _, _, _ => rfl
  | [(key, value)], whole, rest, closes => by
    simp only [memberTokens, List.flatMap_cons, List.append_assoc, List.cons_append]
    rw [run_key, run_toTokens value whole.1 rest closes]
  | (key, value) :: next :: more, whole, rest, closes => by
    have others := run_memberTokens (next :: more) whole.2 rest closes
    simp only [memberTokens, List.flatMap_append, List.flatMap_cons, List.append_assoc, List.cons_append]
    rw [run_key, run_toTokens value whole.1 _ (closes_comma _), run_mark (by decide), others]

end

end Cutting

section Documents

open Document

/-- No value begins with the end of an array. -/
theorem run_firstItem (value : Json) (frames : List Frame) (rest : List Token) :
    run .firstItem frames (value.toTokens ++ rest) =
      run .value (.array [] :: frames) (value.toTokens ++ rest) := by
  cases value <;> rfl

theorem run_nextKey (key : String) (done : List (Quoted × Node)) (frames : List Frame) (rest : List Token) :
    run (.nextKey done) frames (.string (.ofText key) :: .colon :: rest) =
      run .value (.object done (.ofText key) :: frames) rest := rfl

mutual

/-- The tokens of a value make up the node of the value. -/
theorem run_value : ∀ (value : Json) (frames : List Frame) (rest : List Token),
    run .value frames (value.toTokens ++ rest) = run (.after value.toNode) frames rest
  | .null, _, _ | .bool _, _, _ | .number _, _, _ | .string _, _, _ => rfl
  | .array [], _, _ => rfl
  | .array (value :: more), frames, rest => by
    have begun : run .value frames ((Json.array (value :: more)).toTokens ++ rest) =
        run .firstItem frames (itemTokens (value :: more) ++ .closeArray :: rest) := by
      simp [toTokens, run, step?, begin?]
    have first : run .firstItem frames (itemTokens (value :: more) ++ .closeArray :: rest) =
        run .value (.array [] :: frames) (itemTokens (value :: more) ++ .closeArray :: rest) := by
      cases more <;> simp only [itemTokens, List.append_assoc, run_firstItem]
    rw [begun, first, run_items (value :: more) (List.cons_ne_nil _ _) [] frames rest]
    rfl
  | .object [], _, _ => rfl
  | .object (member :: more), frames, rest => by
    have begun : run .value frames ((Json.object (member :: more)).toTokens ++ rest) =
        run .firstKey frames (memberTokens (member :: more) ++ .closeObject :: rest) := by
      simp [toTokens, run, step?, begin?]
    have first : run .firstKey frames (memberTokens (member :: more) ++ .closeObject :: rest) =
        run (.nextKey []) frames (memberTokens (member :: more) ++ .closeObject :: rest) := by
      cases more <;> rfl
    rw [begun, first, run_members (member :: more) (List.cons_ne_nil _ _) [] frames rest]
    rfl

/-- The items of an array, behind those that are done. -/
theorem run_items : ∀ (items : List Json), items ≠ [] → ∀ (done : List Node) (frames : List Frame)
    (rest : List Token),
    run .value (.array done :: frames) (itemTokens items ++ .closeArray :: rest) =
      run (.after (.array (done.reverse ++ toNodes items) true)) frames rest
  | [], nonempty, _, _, _ => absurd rfl nonempty
  | [value], _, done, frames, rest => by
    rw [itemTokens, run_value value]
    simp [run, step?, toNodes]
  | value :: next :: more, _, done, frames, rest => by
    have separated : run (.after value.toNode) (.array done :: frames)
        (.comma :: (itemTokens (next :: more) ++ .closeArray :: rest)) =
        run .value (.array (value.toNode :: done) :: frames)
          (itemTokens (next :: more) ++ .closeArray :: rest) := rfl
    simp only [itemTokens, List.append_assoc, List.cons_append]
    rw [run_value value, separated,
      run_items (next :: more) (List.cons_ne_nil _ _) (value.toNode :: done) frames rest]
    simp [toNodes]

/-- The members of an object, behind those that are done. -/
theorem run_members : ∀ (members : List (String × Json)), members ≠ [] →
    ∀ (done : List (Quoted × Node)) (frames : List Frame) (rest : List Token),
    run (.nextKey done) frames (memberTokens members ++ .closeObject :: rest) =
      run (.after (.object (done.reverse ++ toMembers members) true)) frames rest
  | [], nonempty, _, _, _ => absurd rfl nonempty
  | [(key, value)], _, done, frames, rest => by
    simp only [memberTokens, List.cons_append]
    rw [run_nextKey, run_value value]
    simp [run, step?, toMembers]
  | (key, value) :: next :: more, _, done, frames, rest => by
    have separated : run (.after value.toNode) (.object done (.ofText key) :: frames)
        (.comma :: (memberTokens (next :: more) ++ .closeObject :: rest)) =
        run (.nextKey ((.ofText key, value.toNode) :: done)) frames
          (memberTokens (next :: more) ++ .closeObject :: rest) := rfl
    simp only [memberTokens, List.append_assoc, List.cons_append]
    rw [run_nextKey, run_value value, separated,
      run_members (next :: more) (List.cons_ne_nil _ _) ((.ofText key, value.toNode) :: done) frames rest]
    simp [toMembers]

end

end Documents

section Layout

open Cutter

/-- A new line, with its indentation, stands between tokens. -/
theorem run_newLine (depth : Nat) (rest : List Char) :
    idle.run ((newLine depth).toList ++ rest) = idle.run rest := by
  have indented (width : Nat) : idle.run (List.replicate width ' ' ++ rest) = idle.run rest := by
    induction width with
    | zero => rfl
    | succ width ih => exact ih
  simp only [newLine, String.toList_append, String.toList_ofList]
  exact indented _

theorem closes_newLine (depth : Nat) (rest : List Char) : Closes ((newLine depth).toList ++ rest) := by
  simp [Closes, newLine]

/-- The text of a value on one line is cut into the tokens that write it. -/
theorem cut_compact (value : Json) (whole : value.Whole) {rest : List Char} (closes : Closes rest) :
    idle.run (value.compact.toList ++ rest) = value.toTokens ++ idle.run rest := by
  rw [compact, String.toList_ofList]
  exact run_toTokens value whole rest closes

/-- A key, its colon and the blank behind it are two tokens. -/
theorem run_spacedKey (key : String) (rest : List Char) :
    idle.run ((quote key).toList ++ ((": ").toList ++ rest)) =
      .string (.ofText key) :: .colon :: idle.run rest := by
  rw [quote, String.toList_ofList]
  exact run_key key (' ' :: rest)

mutual

/-- The text of a value over several lines is cut into the tokens that write it. -/
theorem run_prettyAt : ∀ value : Json, value.Whole → ∀ depth rest, Closes rest →
    idle.run ((prettyAt depth value).toList ++ rest) = value.toTokens ++ idle.run rest
  | .null, whole, _, _, closes => cut_compact .null whole closes
  | .bool value, whole, _, _, closes => cut_compact (.bool value) whole closes
  | .number value, whole, _, _, closes => cut_compact (.number value) whole closes
  | .string text, whole, _, _, closes => cut_compact (.string text) whole closes
  | .array [], _, _, _, _ => by simp only [prettyAt]; rfl
  | .array (value :: more), whole, depth, rest, _ => by
    have written := run_prettyItems (value :: more) whole (depth + 1)
      ((newLine depth).toList ++ (Token.closeArray.chars ++ rest)) (closes_newLine depth _)
    have begun : (prettyAt depth (.array (value :: more))).toList ++ rest = Token.openArray.chars ++
        ((prettyItems (depth + 1) (value :: more)).toList ++
          ((newLine depth).toList ++ (Token.closeArray.chars ++ rest))) := by
      simp [prettyAt, Token.chars]
    rw [begun, run_mark (by decide), written, run_newLine, run_mark (by decide)]
    simp [toTokens]
  | .object [], _, _, _, _ => by simp only [prettyAt]; rfl
  | .object (member :: more), whole, depth, rest, _ => by
    have written := run_prettyMembers (member :: more) whole (depth + 1)
      ((newLine depth).toList ++ (Token.closeObject.chars ++ rest)) (closes_newLine depth _)
    have begun : (prettyAt depth (.object (member :: more))).toList ++ rest = Token.openObject.chars ++
        ((prettyMembers (depth + 1) (member :: more)).toList ++
          ((newLine depth).toList ++ (Token.closeObject.chars ++ rest))) := by
      simp [prettyAt, Token.chars]
    rw [begun, run_mark (by decide), written, run_newLine, run_mark (by decide)]
    simp [toTokens]

theorem run_prettyItems : ∀ items : List Json, WholeItems items → ∀ depth rest, Closes rest →
    idle.run ((prettyItems depth items).toList ++ rest) = itemTokens items ++ idle.run rest
  | [], _, _, _, _ => rfl
  | [value], whole, depth, rest, closes => by
    simp only [prettyItems, itemTokens, String.toList_append, List.append_assoc]
    rw [run_newLine, run_prettyAt value whole.1 depth rest closes]
  | value :: next :: more, whole, depth, rest, closes => by
    have others := run_prettyItems (next :: more) whole.2 depth rest closes
    have comma : (",").toList = Token.comma.chars := rfl
    simp only [prettyItems, itemTokens, String.toList_append, List.append_assoc, List.cons_append, comma]
    rw [run_newLine, run_prettyAt value whole.1 depth _ (closes_comma _), run_mark (by decide), others]

theorem run_prettyMembers : ∀ members : List (String × Json), WholeMembers members → ∀ depth rest, Closes rest →
    idle.run ((prettyMembers depth members).toList ++ rest) = memberTokens members ++ idle.run rest
  | [], _, _, _, _ => rfl
  | [(key, value)], whole, depth, rest, closes => by
    simp only [prettyMembers, memberTokens, String.toList_append, List.append_assoc, List.cons_append]
    rw [run_newLine, run_spacedKey, run_prettyAt value whole.1 depth rest closes]
  | (key, value) :: next :: more, whole, depth, rest, closes => by
    have others := run_prettyMembers (next :: more) whole.2 depth rest closes
    have comma : (",").toList = Token.comma.chars := rfl
    simp only [prettyMembers, memberTokens, String.toList_append, List.append_assoc, List.cons_append, comma]
    rw [run_newLine, run_spacedKey, run_prettyAt value whole.1 depth _ (closes_comma _), run_mark (by decide),
      others]

end

end Layout

/-- A text that is cut into the tokens of a value has the node of the value for its document. -/
theorem ofText_of_cut {text : String} {value : Json} (cut : tokens text.toList = value.toTokens) :
    Document.ofText text = ⟨value.toNode, true⟩ := by
  have read := run_value value [] []
  rw [List.append_nil] at read
  rw [Document.ofText, cut, read]
  rfl

/-- The document of a written value is the node of the value. -/
theorem ofText_compact {value : Json} (whole : value.Whole) :
    Document.ofText value.compact = ⟨value.toNode, true⟩ := by
  apply ofText_of_cut
  have nothing : Cutter.Closes [] := by simp [Cutter.Closes]
  simpa [tokens, Cutter.run, Cutter.finish] using cut_compact value whole nothing

/-- The document of a value that is written over several lines is the node of the value as well. -/
theorem ofText_pretty {value : Json} (whole : value.Whole) :
    Document.ofText value.pretty = ⟨value.toNode, true⟩ := by
  apply ofText_of_cut
  simpa [tokens, pretty, Cutter.run, Cutter.finish] using run_prettyAt value whole 0 [] (by simp [Cutter.Closes])

end Json

end ProblemBoard
