import ProblemBoard.Navigation.Json
import ProblemBoard.Store
import ProblemBoard.Tally
import ProblemBoard.Widget.Fields

/-! # The view of a board

A request names a board and gives its fields; the response holds what the front end draws: the
problems counted for each navigation item, the maps that may be opened, the styles of severities, and
what the user has opened and selected. There are no partial responses: any fault of a store fails
the view as a whole.
-/

namespace ProblemBoard.Widget

open Navigation

/-- A request to draw a board. -/
structure Request where
  /-- The header, if the board has one of its own. -/
  name : Option String
  uniqueId : String
  /-- The number of the saved board, or zero. -/
  widget : Int
  initialLoad : Bool
  fields : FieldTable

namespace Request

/-- Any flag, or `null` for no. -/
def flagDecoder : Decoder Bool := fun depth node => do
  match ← Decoder.json depth node with
  | .null => pure false
  | value => (flag? value).elim (throw .invalidFlag) pure

/-- An object of any members. -/
def fieldTableDecoder : Decoder FieldTable := fun depth node => do
  match ← Decoder.json depth node with
  | .object members => pure (.ofList members)
  | _ => throw .malformed

def recordFields : Fields Request :=
  Request.mk <$> .optional "name" (.nullable .string) none <*> .required "uniqueid" .string <*>
    .optional "widgetid" .int64 0 <*> .optional "initial_load" flagDecoder false <*>
    .optional "fields" fieldTableDecoder ∅

/-- The request that a text holds. -/
def ofText (text : String) : Except ReadFault Request := recordFields.decoder.run text

def toJson (request : Request) : Json :=
  .object [("name", request.name.elim .null .string), ("uniqueid", .string request.uniqueId),
    ("widgetid", .int request.widget), ("initial_load", .bool request.initialLoad),
    ("fields", .object request.fields.toList)]

end Request

/-- What the front end draws. -/
structure Response where
  name : String
  uniqueId : String
  selected : ItemId
  opened : List ItemId
  /-- The problems of each item, in ascending order of the items. -/
  problems : List (ItemId × Bucket)
  showUnavailable : Bool
  accessible : List MapId
  config : SeverityConfig
  initialLoad : Bool
  deriving DecidableEq

/-- The header of a board without a name of its own. -/
def defaultName : String := "Map navigation tree"

/-- A bucket without problems is written as zero. -/
def bucketJson (bucket : Bucket) : Json := if bucket.isEmpty then .nat 0 else bucket.toJson

/-- A response is never an error, and says so. -/
def Response.toJson (response : Response) : Json :=
  .object [("name", .string response.name), ("uniqueid", .string response.uniqueId),
    ("navtree_item_selected", response.selected.toJson),
    ("navtree_items_opened", .array (response.opened.map Ident.toJson)),
    ("problems", .object (response.problems.map fun (item, bucket) =>
      (Decimal.natText item.toNat, bucketJson bucket))),
    ("show_unavailable", .bool response.showUnavailable),
    ("maps_accessible", .array (response.accessible.map Ident.toJson)),
    ("severity_config", response.config.toJson), ("initial_load", .bool response.initialLoad),
    ("error", .null)]

/-- What a user has opened and selected. Nothing is kept for a board that is not saved. -/
def userState {σ : Type} [ProfileStore σ] (store : σ) (user widget : Int) : List ItemId × ItemId :=
  if widget = 0 then ([], .zero)
  else (ProfileStore.opened store user widget, ProfileStore.selected store user widget)

/-- Draw a board for a user. -/
def view {σ : Type} [Store σ] (store : σ) (user : Int) (request : Request) :
    Except ViewFault Response := do
  let setup ← Setup.ofFields request.fields
  let config ← (Store.severityConfig store).mapError .store
  let tally ← (countProblems (Store.feeds store) setup.tree).mapError .feed
  let (opened, selected) := userState store user request.widget
  pure
    { name := request.name.getD defaultName
      uniqueId := request.uniqueId
      selected, opened, config
      problems := tally.buckets.toList
      showUnavailable := setup.showUnavailable
      accessible := tally.accessible
      initialLoad := request.initialLoad }

end ProblemBoard.Widget
