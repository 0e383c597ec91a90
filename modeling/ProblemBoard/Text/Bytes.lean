/-! # Bytes of a text

A text as bytes, one to four for each character.
-/

namespace ProblemBoard.Text

/-- The UTF-8 bytes of a text. -/
def bytes (text : String) : List UInt8 := text.toList.flatMap String.utf8EncodeChar

@[simp] theorem bytes_empty : bytes "" = [] := rfl

theorem bytes_inj {text other : String} : bytes text = bytes other ↔ text = other := by
  refine ⟨fun same => ?_, congrArg bytes⟩
  have encoded := congrArg List.toByteArray same
  rwa [bytes, bytes, ← List.utf8Encode, ← List.utf8Encode, String.utf8Encode_toList, String.utf8Encode_toList,
    String.toByteArray_inj] at encoded

/-- The entry of a table whose name has the given bytes. -/
def lookupBytes {α : Type} (table : List (String × α)) (name : List UInt8) : Option α :=
  (table.find? fun entry => bytes entry.1 == name).map (·.2)

end ProblemBoard.Text
