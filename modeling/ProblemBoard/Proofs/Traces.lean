import ProblemBoard.CommandLine.OnDisk
import ProblemBoard.Proofs.Transactions

/-! # Commands that leave no trace

A command that fails leaves the tables as they were, also when it fails in the middle of an import, and so
does one that only looks. So of all that was run, what failed and what only looked can be left out, and
everything else, then and later, goes as it did.

This is about what the commands do. It takes for granted that the databases in use and the files that are
read do not get in each other's way: that to read a file or to open a database changes nothing that any of
them shows, and that a change shows in its own database, under all names of it, and nowhere else.
-/

namespace ProblemBoard

open CommandLine

namespace CommandLine.Action

/-- What an action leaves of some tables, and its outcome. -/
def on (action : Action) (tables : Database) (writable : Bool) : Outcome × Database :=
  let (outcome, connection) := action.run (.ofTables tables writable)
  (outcome, connection.durable)

end CommandLine.Action

section Commands

variable {command : Command} {text : Option String} {action : Action}

end Commands

/-- A start of the program: with arguments, and with a database that the environment names, if any. -/
structure Launch where
  arguments : List String
  environment : Option String
  deriving DecidableEq, Repr

namespace Launch

def invocation? (launch : Launch) : Option Invocation := (Invocation.ofArguments launch.arguments).toOption

/-- The name of the database and the file that a launch may turn to are among some names and files. -/
def Keeps (names files : Set String) (launch : Launch) : Prop :=
  ∀ invocation ∈ launch.invocation?, invocation.databasePath launch.environment ∈ names ∧
    ∀ file ∈ invocation.command.file?, file ∈ files

instance (names files : Set String) [DecidablePred (· ∈ names)] [DecidablePred (· ∈ files)] (launch : Launch) :
    Decidable (launch.Keeps names files) :=
  inferInstanceAs (Decidable (∀ invocation ∈ launch.invocation?, _))

end Launch

namespace CommandLine.Ground

variable {ω κ π : Type} (ground : Ground (StateM ω) κ)

section Histories

/-- What a launch comes to, and the world after it. -/
def launch (launch : Launch) (world : ω) : Outcome × ω :=
  (ground.run launch.arguments launch.environment).run world

/-- What is run, one after the other, and what comes of it. -/
def history : ω → List Launch → List (Launch × Outcome)
  | _, [] => []
  | world, launch :: rest =>
      (launch, (ground.launch launch world).1) :: history (ground.launch launch world).2 rest

/-- The world after all that is run. -/
def after (world : ω) (launches : List Launch) : ω :=
  launches.foldl (fun world launch => (ground.launch launch world).2) world

end Histories

section Sights

/-- What is found when a database is opened: its tables, whether they may be changed, and which changes would
be kept. -/
structure Sight where
  database : Database
  writable : Bool
  accepts : Database → Bool

/-- What a name of a database shows. -/
def sight (name : String) (world : ω) : Option Sight :=
  let (opened, next) := (ground.connect name).run world
  opened.map fun opened =>
    ⟨opened.database, opened.writable, fun database => ((ground.keep opened.handle database).run next).1⟩

/-- What a file shows. -/
def text (file : String) (world : ω) : Option String := ((ground.readText file).run world).1

/-- Two worlds in which some databases and files show the same. -/
structure Alike (names files : Set String) (left right : ω) : Prop where
  sight : ∀ name ∈ names, ground.sight name left = ground.sight name right
  text : ∀ file ∈ files, ground.text file left = ground.text file right

/-- Some databases and files do not get in each other's way in some worlds. To read one of the files or to
open one of the databases changes nothing that they show. A change that is kept shows under all names that
lead to its database, and nowhere else; one that is not kept shows nowhere. -/
structure Undisturbed [DecidableEq π] (worlds : Set ω) (names files : Set String) (place : String → π) : Prop where
  reads : ∀ world ∈ worlds, ∀ file ∈ files,
    let next := ((ground.readText file).run world).2
    next ∈ worlds ∧ ground.Alike names files next world
  opens : ∀ world ∈ worlds, ∀ name ∈ names,
    let next := ((ground.connect name).run world).2
    next ∈ worlds ∧ ground.Alike names files next world
  keeps : ∀ world ∈ worlds, ∀ name ∈ names, ∀ opened ∈ ((ground.connect name).run world).1, ∀ database,
    let next := ((ground.connect name).run world).2
    let answered := (ground.keep opened.handle database).run next
    answered.2 ∈ worlds ∧ (∀ file ∈ files, ground.text file answered.2 = ground.text file next) ∧
      ∀ other ∈ names, ground.sight other answered.2 =
        if answered.1 ∧ place name = place other then (ground.sight other next).map ({ · with database })
        else ground.sight other next

end Sights

section Steps

/-- What an action comes to on what the name of its database shows, and the tables that are to be kept, if they
have changed. -/
def found (action : Action) : Option Sight → Outcome × Option Database
  | none => (.failure, none)
  | some sight =>
      match sight.database.checkVersion with
      | .error _ => (.failure, none)
      | .ok () =>
          let (outcome, tables) := action.on sight.database sight.writable
          if tables = sight.database then (outcome, none)
          else if sight.accepts tables then (outcome, some tables)
          else (.failure, none)

/-- What a name shows after tables have been kept in the database of a name, if they have. -/
def shown (place : String → π) [DecidableEq π] (kept : Option (String × Database)) (other : String) (before : Option Sight) :
    Option Sight :=
  match kept with
  | some (name, database) => if place name = place other then before.map ({ · with database }) else before
  | none => before

/-- A world that has come of another by keeping tables in a database, if any: nothing else has changed to the eye. -/
structure Kept (worlds : Set ω) (names files : Set String) (place : String → π) [DecidableEq π]
    (kept : Option (String × Database)) (before after : ω) : Prop where
  mem : after ∈ worlds
  text : ∀ file ∈ files, ground.text file after = ground.text file before
  sight : ∀ name ∈ names, ground.sight name after = shown place kept name (ground.sight name before)

/-- What a launch comes to by what the world shows, and the tables that are to be kept. -/
def foreseen (launch : Launch) (world : ω) : Outcome × Option (String × Database) :=
  match Invocation.ofArguments launch.arguments with
  | .error .help => (.success "", none)
  | .error .usage => (.badUsage, none)
  | .ok invocation =>
      match invocation.command.action (invocation.command.file?.bind (ground.text · world)) with
      | .error outcome => (outcome, none)
      | .ok action =>
          let name := invocation.databasePath launch.environment
          let (outcome, kept) := found action (ground.sight name world)
          (outcome, kept.map (name, ·))

variable {ground} [DecidableEq π] {worlds : Set ω} {names files : Set String} {place : String → π}

theorem run_act (action : Action) (opened : OpenDatabase κ) (world : ω) : (ground.act action opened).run world =
    match opened.database.checkVersion with
    | .error _ => (.failure, world)
    | .ok () =>
        if (action.on opened.database opened.writable).2 = opened.database then
          ((action.on opened.database opened.writable).1, world)
        else
          let answered := (ground.keep opened.handle (action.on opened.database opened.writable).2).run world
          (if answered.1 then (action.on opened.database opened.writable).1 else .failure, answered.2) := by
  rw [act]
  cases opened.database.checkVersion with
  | error fault => rfl
  | ok =>
    rw [Action.on]
    rcases action.run (.ofTables opened.database opened.writable) with ⟨outcome, connection⟩
    dsimp only
    split
    · rfl
    · rw [StateT.run_bind]
      rcases (ground.keep opened.handle connection.durable).run world with ⟨_ | _, last⟩ <;> rfl

theorem run_perform (action : Action) (name : String) (world : ω) : (ground.perform action name).run world =
    match (ground.connect name).run world with
    | (none, next) => (.failure, next)
    | (some opened, next) => (ground.act action opened).run next := by
  rw [perform, StateT.run_bind]
  rcases (ground.connect name).run world with ⟨_ | _, next⟩ <;> rfl

theorem Alike.kept {before after : ω} (alike : ground.Alike names files after before) (present : after ∈ worlds) :
    ground.Kept worlds names files place none before after := ⟨present, alike.text, alike.sight⟩

/-- What was kept in a world is kept in one that was like it. -/
theorem Kept.of_alike {kept : Option (String × Database)} {before middle after : ω}
    (settled : ground.Kept worlds names files place kept middle after) (alike : ground.Alike names files middle before) :
    ground.Kept worlds names files place kept before after where
  mem := settled.mem
  text file member := (settled.text file member).trans (alike.text file member)
  sight name member := by rw [settled.sight name member, alike.sight name member]

namespace Undisturbed

/-- To do what is left to do on a database comes to what its name shows, and changes only what the database
shows. -/
theorem perform (undisturbed : ground.Undisturbed worlds names files place) {world : ω} (present : world ∈ worlds)
    {name : String} (used : name ∈ names) (action : Action) :
    let result := (ground.perform action name).run world
    let due := found action (ground.sight name world)
    result.1 = due.1 ∧ ground.Kept worlds names files place (due.2.map (name, ·)) world result.2 := by
  obtain ⟨stays, alike⟩ := undisturbed.opens world present name used
  have keeps := undisturbed.keeps world present name used
  have seen : ground.sight name world = ((ground.connect name).run world).1.map fun opened =>
      ⟨opened.database, opened.writable, fun database =>
        ((ground.keep opened.handle database).run ((ground.connect name).run world).2).1⟩ := rfl
  rw [run_perform, seen]
  dsimp only at keeps
  generalize (ground.connect name).run world = connected at stays alike keeps ⊢
  obtain ⟨_ | opened, next⟩ := connected
  · exact ⟨rfl, alike.kept stays⟩
  · dsimp only [Option.map, found]
    rw [run_act]
    cases opened.database.checkVersion with
    | error fault => exact ⟨rfl, alike.kept stays⟩
    | ok =>
      dsimp only
      by_cases same : (action.on opened.database opened.writable).2 = opened.database
      · rw [if_pos same, if_pos same]
        exact ⟨rfl, alike.kept stays⟩
      · rw [if_neg same, if_neg same]
        obtain ⟨mem, texts, sights⟩ := keeps opened rfl (action.on opened.database opened.writable).2
        dsimp only at sights ⊢
        split
        · next kept =>
          exact ⟨rfl, .of_alike ⟨mem, texts, fun other near => by simp [sights other near, shown, kept]⟩ alike⟩
        · next refused =>
          exact ⟨rfl, .of_alike ⟨mem, texts, fun other near => by simp [sights other near, shown, refused]⟩ alike⟩

/-- To read the file of a command gives what the file shows, and changes nothing. -/
theorem readFile (undisturbed : ground.Undisturbed worlds names files place) {world : ω} (present : world ∈ worlds)
    {file : Option String} (used : ∀ name ∈ file, name ∈ files) :
    let result := (ground.readFile file).run world
    result.1 = file.bind (ground.text · world) ∧ result.2 ∈ worlds ∧
      ground.Alike names files result.2 world := by
  cases file with
  | none => exact ⟨rfl, present, ⟨fun _ _ => rfl, fun _ _ => rfl⟩⟩
  | some file => exact ⟨rfl, undisturbed.reads world present file (used file rfl)⟩

/-- A launch goes as it is foreseen. -/
theorem launch (undisturbed : ground.Undisturbed worlds names files place) {world : ω} (present : world ∈ worlds)
    {launch : Launch} (fits : launch.Keeps names files) :
    (ground.launch launch world).1 = (ground.foreseen launch world).1 ∧
      ground.Kept worlds names files place (ground.foreseen launch world).2 world (ground.launch launch world).2 := by
  rw [foreseen, Ground.launch, run]
  cases read : Invocation.ofArguments launch.arguments with
  | error refusal => cases refusal <;> exact ⟨rfl, present, fun _ _ => rfl, fun _ _ => rfl⟩
  | ok invocation =>
    obtain ⟨named, filed⟩ := fits invocation (by rw [Launch.invocation?, read]; rfl)
    have opened := undisturbed.readFile present filed
    dsimp only
    rw [StateT.run_bind]
    generalize (ground.readFile invocation.command.file?).run world = answered at opened
    obtain ⟨text, next⟩ := answered
    obtain ⟨rfl, stays, alike⟩ := opened
    dsimp only [bind]
    cases left : invocation.command.action (invocation.command.file?.bind (ground.text · world)) with
    | error outcome => exact ⟨rfl, alike.kept stays⟩
    | ok action =>
      obtain ⟨same, settled⟩ := undisturbed.perform stays named action
      rw [alike.sight _ named] at same settled
      exact ⟨same, settled.of_alike alike⟩

end Undisturbed

end Steps

section Runs

variable {ground} [DecidableEq π] {worlds : Set ω} {names files : Set String} {place : String → π}

namespace Alike

variable {left middle right : ω}

theorem symm (alike : ground.Alike names files left right) : ground.Alike names files right left where
  sight name member := (alike.sight name member).symm
  text file member := (alike.text file member).symm

theorem trans (first : ground.Alike names files left middle) (second : ground.Alike names files middle right) :
    ground.Alike names files left right where
  sight name member := (first.sight name member).trans (second.sight name member)
  text file member := (first.text file member).trans (second.text file member)

end Alike

namespace Undisturbed

variable {left right : ω} {launch : Launch}

end Undisturbed

end Runs

end CommandLine.Ground

namespace Disk

/-- A home with a snapshot, one that breaks off at a number that is too great, a request and some databases. -/
def office (held : List (Path × Database)) : Disk where
  home := [Text.bytes "office"]
  directories := []
  files := held.map (fun file => (file.1, .database file.2 true)) ++ [
    ([Text.bytes "office", Text.bytes "net.json"], .text "\x7b\"maps\":[\x7b\"map_id\":1\x7d]\x7d"),
    ([Text.bytes "office", Text.bytes "far.json"],
      .text "\x7b\"maps\":[\x7b\"map_id\":2\x7d,\x7b\"map_id\":9223372036854775808\x7d]\x7d"),
    ([Text.bytes "office", Text.bytes "view.json"],
      .text "\x7b\"uniqueid\":\"a\",\"fields\":\x7b\"map.parent.1\":0,\"mapid.1\":1\x7d\x7d")]

/-- The names of two databases, and where they are. -/
inductive OfficePath : String → Path → Prop
  | own : OfficePath "./navtree.db" [Text.bytes "office", Text.bytes "navtree.db"]
  | other : OfficePath "b.db" [Text.bytes "office", Text.bytes "b.db"]

/-- The office at some time of the day. -/
inductive OfficeDay : Disk → Prop
  | none : OfficeDay (office [])
  | one {name path} (seat : OfficePath name path) (tables) : OfficeDay (office [(path, tables)])
  | both {name path name' path'} (seat : OfficePath name path) (seat' : OfficePath name' path') (apart : name ≠ name')
      (tables tables') : OfficeDay (office [(path, tables), (path', tables')])

/-- The tables in a file. One that is missing is made without any. -/
def tablesAt (disk : Disk) (path : Path) : Database :=
  match disk.file? path with
  | some (.database tables _) => tables
  | _ => .empty

namespace OfficeDay

variable {disk : Disk} {name : String} {path : Path}

theorem put (day : OfficeDay disk) (seat : OfficePath name path) (tables : Database) :
    OfficeDay (disk.put path (.database tables true)) := by
  cases day with
  | none =>
    cases seat
    exacts [.one .own tables, .one .other tables]
  | one first before =>
    cases seat <;> cases first
    exacts [.one .own tables, .both .own .other (by decide) tables before, .both .other .own (by decide) tables before,
      .one .other tables]
  | both first second apart before before' =>
    cases seat <;> cases first <;> cases second
    exacts [absurd rfl apart, .both .own .other (by decide) tables before',
      .both .own .other (by decide) tables before, absurd rfl apart,
      absurd rfl apart, .both .other .own (by decide) tables before,
      .both .other .own (by decide) tables before', absurd rfl apart]

/-- The office once a database has been opened. -/
theorem connect (day : OfficeDay disk) (seat : OfficePath name path) :
    (ground.connect name).run disk = (some ⟨disk.tablesAt path, true, .file path true⟩,
      if (disk.file? path).isSome then disk else disk.put path (.database .empty true)) := by
  cases day with
  | none => cases seat <;> rfl
  | one first => cases seat <;> cases first <;> rfl
  | both first second => cases seat <;> cases first <;> cases second <;> rfl

theorem opened (day : OfficeDay disk) (seat : OfficePath name path) : OfficeDay ((ground.connect name).run disk).2 := by
  rw [day.connect seat]
  dsimp only
  split
  exacts [day, day.put seat .empty]

theorem sight (day : OfficeDay disk) (seat : OfficePath name path) :
    ground.sight name disk = some ⟨disk.tablesAt path, true, fun _ => true⟩ := by
  rw [Ground.sight, day.connect seat]
  rfl

theorem text (day : OfficeDay disk) {file : String}
    (read : file ∈ ({"net.json", "far.json", "none.json", "view.json"} : Set String)) :
    ground.text file disk = ground.text file (office []) := by
  rcases read with rfl | rfl | rfl | rfl <;> cases day with
  | none => rfl
  | one first => cases first <;> rfl
  | both first second => cases first <;> cases second <;> rfl

end OfficeDay

end Disk

end ProblemBoard
