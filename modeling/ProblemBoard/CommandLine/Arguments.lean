import ProblemBoard.Text.Integer
import ProblemBoard.Text.Split

/-! # Command lines

A command line names a command, with options before and after the name. The database may be named
anywhere; of two names, the one behind the command counts. Every other option belongs to a command
and may be given once. A value stands behind its option or is attached to it; only an attached value
may begin with a hyphen. Two hyphens end the options.

Arguments are looked at in turn, and the first thing that is wrong, or the first call for help,
settles the matter. A value that stands behind its option is looked at with the argument behind it;
in front of the command's name that means after the command.
-/

namespace ProblemBoard.CommandLine

/-- What a user can ask for. -/
inductive Command where
  /-- Load a snapshot from a file. -/
  | load (file : String)
  /-- Draw the board that a request in a file asks for. -/
  | render (file : String) (user : Int) (pretty : Bool)
  /-- List the stored maps. -/
  | maps
  /-- Open or close a navigation item. -/
  | toggle (user widget : Int) (item : ItemId) (opened : Bool)
  /-- Select a navigation item. -/
  | select (user widget : Int) (item : ItemId)
  deriving DecidableEq, Repr

/-- A command, and the database it is for, if one is named. -/
structure Invocation where
  database : Option String
  command : Command
  deriving DecidableEq, Repr

/-- Why there is no command to run. -/
inductive Refusal where
  /-- The user asks for help. -/
  | help
  /-- The command line makes no sense. -/
  | usage
  deriving DecidableEq, Repr

/-- What the value of an option has to be. -/
inductive ValueKind where
  /-- The option has no value. -/
  | absent
  | text
  /-- A signed integer. -/
  | integer
  /-- The number of a navigation item. -/
  | item
  deriving DecidableEq, Repr

/-- Whether a text can be the value of an option. -/
def ValueKind.accepts : ValueKind → String → Bool
  | .absent, _ => false
  | .text, _ => true
  | .integer, value => (Text.integer? value.toList).isSome
  | .item, value => (Text.natural? value.toList).isSome

/-- An option, by its letter and its long name. -/
structure OptionSpec where
  letter : Option Char
  name : String
  kind : ValueKind
  deriving DecidableEq, Repr

namespace OptionSpec

def database : OptionSpec := ⟨some 'd', "db", .text⟩
def user : OptionSpec := ⟨some 'u', "user", .integer⟩
def widget : OptionSpec := ⟨some 'w', "widget", .integer⟩
def item : OptionSpec := ⟨some 'i', "item", .item⟩
def pretty : OptionSpec := ⟨none, "pretty", .absent⟩
def close : OptionSpec := ⟨none, "close", .absent⟩

end OptionSpec

/-- The shape of one argument. -/
inductive Shape where
  /-- Two hyphens. -/
  | endOfOptions
  /-- A long name, possibly with a value behind an equals sign. -/
  | long (name : String) (value : Option String)
  /-- A letter, possibly with a value attached. -/
  | short (letter : Char) (value : Option String)
  | operand
  deriving DecidableEq, Repr

/-- The value attached to a letter. -/
def attachedValue : List Char → Option String
  | [] => none
  | '=' :: rest => some (String.ofList rest)
  | rest => some (String.ofList rest)

/-- The shape of an argument. A single hyphen is an operand. -/
def shapeOf (argument : String) : Shape :=
  match argument.toList with
  | ['-', '-'] => .endOfOptions
  | '-' :: '-' :: rest =>
      let (name, value) := Text.splitFirst '=' rest
      .long (String.ofList name) (value.map String.ofList)
  | '-' :: letter :: rest => .short letter (attachedValue rest)
  | _ => .operand

/-- An option whose value stands in the next argument. -/
inductive Pending where
  | nothing
  /-- The value is to come. -/
  | awaiting (spec : OptionSpec)
  /-- The value has come and is still to be looked at. -/
  | holding (spec : OptionSpec) (value : String)
  deriving DecidableEq, Repr

/-- The options and operands found so far. An option without value has an empty text. -/
structure Found where
  options : List (String × String)
  operands : List String
  deriving DecidableEq, Repr

namespace Found

def nothing : Found := ⟨[], []⟩

/-- Note an option, unless it has been given before. -/
def addOption (found : Found) (spec : OptionSpec) (value : String) : Except Refusal Found :=
  if (found.options.lookup spec.name).isSome then .error .usage
  else .ok { found with options := (spec.name, value) :: found.options }

/-- Note an option with its value, if the value will do. -/
def addValue (found : Found) (spec : OptionSpec) (value : String) : Except Refusal Found :=
  if spec.kind.accepts value then found.addOption spec value else .error .usage

/-- Note an option with the value attached to it. The result also says whether the value is still to
come. -/
def addAttached (found : Found) (spec : OptionSpec) (value : Option String) :
    Except Refusal (Pending × Found) :=
  match spec.kind, value with
  | .absent, none => (found.addOption spec "").map (.nothing, ·)
  | .absent, some _ => .error .usage
  | _, none => .ok (.awaiting spec, found)
  | _, some value => (found.addValue spec value).map (.nothing, ·)

/-- Note an option as it stands in its argument. Nothing may be attached to the long call for help,
and anything to the short one. -/
def addShaped (found : Found) (specs : List OptionSpec) : Shape → Except Refusal (Pending × Found)
  | .long name value =>
      if name = "help" then .error (if value.isSome then .usage else .help)
      else (specs.find? (·.name == name)).elim (.error .usage) (found.addAttached · value)
  | .short letter value =>
      if letter = 'h' then .error .help
      else (specs.find? (·.letter == some letter)).elim (.error .usage) (found.addAttached · value)
  | .endOfOptions => .error .usage
  | .operand => .error .usage

/-- Note operands, as long as there are no more than the command takes. -/
def addOperands (found : Found) (limit : Nat) (operands : List String) : Except Refusal Found :=
  if found.operands.length + operands.length ≤ limit then
    .ok { found with operands := found.operands ++ operands }
  else .error .usage

/-- Note the option that is pending. -/
def settle (found : Found) : Pending → Except Refusal Found
  | .nothing => .ok found
  | .awaiting _ => .error .usage
  | .holding spec value => found.addValue spec value

def has (found : Found) (spec : OptionSpec) : Bool := (found.options.lookup spec.name).isSome

def value? (found : Found) (spec : OptionSpec) : Option String := found.options.lookup spec.name

end Found

/-- Read the arguments behind the name of a command that takes some options and at most `limit`
operands. -/
def readArguments (specs : List OptionSpec) (limit : Nat) :
    Pending → Found → List String → Except Refusal Found
  | pending, found, [] => found.settle pending
  | .awaiting spec, found, argument :: rest =>
      match shapeOf argument with
      | .operand => readArguments specs limit (.holding spec argument) found rest
      | _ => .error .usage
  | pending, found, argument :: rest => do
      let found ← found.settle pending
      match shapeOf argument with
      | .operand => do
          let found ← found.addOperands limit [argument]
          readArguments specs limit .nothing found rest
      | .endOfOptions => found.addOperands limit rest
      | shape => do
          let (pending, found) ← found.addShaped specs shape
          readArguments specs limit pending found rest

/-- What stands in front of the name of a command, the name, and the arguments behind it. -/
structure Front where
  found : Found
  /-- What is still to be looked at when the command has been. -/
  pending : Pending
  name : String
  rest : List String
  deriving DecidableEq, Repr

/-- Read the arguments up to the name of a command. -/
def readFront (specs : List OptionSpec) : Pending → Found → List String → Except Refusal Front
  | _, _, [] => .error .usage
  | .awaiting spec, found, argument :: rest =>
      match shapeOf argument with
      | .operand => readFront specs (.holding spec argument) found rest
      | _ => .error .usage
  | pending, found, argument :: rest =>
      match shapeOf argument with
      | .operand => .ok ⟨found, pending, argument, rest⟩
      | shape => do
          let found ← found.settle pending
          let (pending, found) ← found.addShaped specs shape
          readFront specs pending found rest

/-- The integer that an option gives, or a default if the option is missing. -/
def integerOption (found : Found) (spec : OptionSpec) (default : Option Int) : Except Refusal Int :=
  match found.value? spec with
  | some text => (Text.integer? text.toList).elim (.error .usage) .ok
  | none => default.elim (.error .usage) .ok

/-- The navigation item that an option gives. -/
def itemOption (found : Found) (spec : OptionSpec) : Except Refusal ItemId :=
  match (found.value? spec).bind fun text => Text.natural? text.toList with
  | some number => .ok ⟨number⟩
  | none => .error .usage

/-- The user a command is for, unless another one is named. -/
def defaultUser : Int := 1

/-- How a command is read: its options besides that of the database, the most operands it takes, and
how it is made of what is found. -/
structure CommandSpec where
  options : List OptionSpec
  operandLimit : Nat
  make : Found → Except Refusal Command

/-- The only operand. -/
def Found.file (found : Found) : Except Refusal String :=
  match found.operands with
  | [file] => .ok file
  | _ => .error .usage

def commandSpec? : String → Option CommandSpec
  | "import" => some ⟨[], 1, fun found => do
      pure (.load (← found.file))⟩
  | "render" => some ⟨[.user, .pretty], 1, fun found => do
      let user ← integerOption found .user (some defaultUser)
      pure (.render (← found.file) user (found.has .pretty))⟩
  | "maps" => some ⟨[], 0, fun _ => .ok .maps⟩
  | "toggle" => some ⟨[.widget, .item, .close, .user], 0, fun found => do
      let widget ← integerOption found .widget none
      let item ← itemOption found .item
      let user ← integerOption found .user (some defaultUser)
      pure (.toggle user widget item (!found.has .close))⟩
  | "select" => some ⟨[.widget, .item, .user], 0, fun found => do
      let widget ← integerOption found .widget none
      let item ← itemOption found .item
      let user ← integerOption found .user (some defaultUser)
      pure (.select user widget item)⟩
  | _ => none

/-- The command that gives help. -/
def helpName : String := "help"

/-- What the command for help comes to: help, on everything or on one command. -/
def helpOn : List String → Refusal
  | [] => .help
  | [topic] => if topic = helpName || (commandSpec? topic).isSome then .help else .usage
  | _ => .usage

/-- The invocation that a command line describes. -/
def Invocation.ofArguments (arguments : List String) : Except Refusal Invocation := do
  let front ← readFront [.database] .nothing .nothing arguments
  if front.name = helpName then throw (helpOn front.rest)
  match commandSpec? front.name with
  | none => .error .usage
  | some spec => do
      let options := .database :: spec.options
      let found ← readArguments options spec.operandLimit .nothing .nothing front.rest
      let command ← spec.make found
      let before ← front.found.settle front.pending
      .ok ⟨(found.value? .database).or (before.value? .database), command⟩

end ProblemBoard.CommandLine
