import ProblemBoard.Json.Decoder

/-! # What can go wrong

Faults are told apart by their causes. Each has one message, except those on which there is nothing
to say beyond their kind.
-/

namespace ProblemBoard

/-- Why a model makes no sense. -/
inductive ModelFault where
  | invalidSeverity (level : Nat)
  | invalidPermission (level : Nat)
  | invalidElement (map : MapId) (fault : ElementFault)
  deriving DecidableEq, Repr

def ElementFault.message : ElementFault → String
  | noTriggers => "trigger element without triggers"
  | noTargetMap => "map element without target map"

def ModelFault.message : ModelFault → String
  | invalidSeverity level => s!"invalid severity: {level}"
  | invalidPermission level => s!"invalid permission level: {level}"
  | invalidElement map fault => s!"invalid map element on map {map.toNat}: {fault.message}"

/-- Why a number cannot be kept in a database cell, or cannot have come from one. -/
inductive CellFault where
  /-- An identifier too large for a signed cell. -/
  | idTooLarge (id : UInt64)
  | negativeId (cell : Int)
  | severityOutOfRange (cell : Int)
  deriving DecidableEq, Repr

def CellFault.message : CellFault → String
  | idTooLarge id => s!"id {id.toNat} exceeds the SQLite integer range"
  | negativeId cell => s!"stored id {cell} is negative"
  | severityOutOfRange cell => s!"severity {cell} out of range"

/-- Why a store refuses an operation. -/
inductive StoreFault where
  /-- The database itself refuses a statement. -/
  | database
  /-- The schema of a database is not the current one and cannot be brought up to it. -/
  | migration
  /-- A text cannot be read as the model that it should be. -/
  | unreadable (fault : ReadFault)
  | mapNotFound (id : MapId)
  | triggerNotFound (id : TriggerId)
  | problemNotFound (id : Int)
  | invalidModel (fault : ModelFault)
  | integrity (fault : CellFault)
  deriving DecidableEq, Repr

def StoreFault.message? : StoreFault → Option String
  | database => none
  | migration => none
  | unreadable fault => fault.message?
  | mapNotFound id => some s!"map not found: {id.toNat}"
  | triggerNotFound id => some s!"trigger not found: {id.toNat}"
  | problemNotFound id => some s!"problem not found: {id}"
  | invalidModel fault => some s!"invalid model: {fault.message}"
  | integrity fault => some s!"integrity error: {fault.message}"

/-- Why a feed does not answer. -/
inductive FeedFault where
  /-- The store behind the feed cannot be reached. -/
  | unavailable (reason : String)
  /-- The store behind the feed failed. -/
  | backend (cause : StoreFault)
  deriving DecidableEq, Repr

/-- Nothing is said about texts that cannot be read. -/
def FeedFault.message? : FeedFault → Option String
  | unavailable reason => some s!"source unavailable: {reason}"
  | backend (.unreadable _) => none
  | backend cause => cause.message?.map fun text => s!"source backend error: {text}"

/-- What is wrong with a widget field. -/
inductive FieldReason where
  | notANumber
  | notAFlag
  deriving DecidableEq, Repr

def FieldReason.message : FieldReason → String
  | notANumber => "not a number"
  | notAFlag => "expected 0 or 1"

/-- Why a view cannot be drawn. -/
inductive ViewFault where
  | invalidField (field : String) (reason : FieldReason)
  | feed (fault : FeedFault)
  | store (fault : StoreFault)
  deriving DecidableEq, Repr

namespace ViewFault

/-- The word by which machines know the fault. -/
def code : ViewFault → String
  | invalidField _ _ => "INVALID_FIELD"
  | feed _ => "SOURCE_ERROR"
  | store _ => "STORAGE_ERROR"

def message? : ViewFault → Option String
  | invalidField field reason => some s!"invalid field '{field}': {reason.message}"
  | feed fault => fault.message?.map fun text => s!"source error: {text}"
  | store fault => fault.message?.map fun text => s!"storage error: {text}"

/-- Whether the request is at fault, and not a store. -/
def isInput : ViewFault → Bool
  | invalidField _ _ => true
  | feed _ => false
  | store _ => false

end ViewFault

end ProblemBoard
