import ProblemBoard.Exploration
import ProblemBoard.NetworkMap
import Std.Data.ExtTreeMap

/-! # Atlases of network maps

An atlas holds the maps that can be reached from some roots, each with the set of all maps nested in
it through readable elements. That set is worked out here, by exploring the direct embeddings; what
a map brought along as its nested maps has no influence. A map on a circle of embeddings is nested
in itself, and a nested map need not exist.

`Atlas.ofMaps` builds an atlas from known maps, and `Atlas.discover` fetches them from a feed, one
wave of embeddings after the other.
-/

namespace ProblemBoard

/-- Maps filed under a key, which need not be their own identifier. -/
abbrev MapTable := Std.ExtTreeMap MapId NetworkMap

/-- For each map identifier, the maps embedded directly through readable elements. -/
abbrev Embeddings := Std.ExtTreeMap MapId (IdSet .map)

namespace Embeddings

/-- The maps embedded directly in the given one. -/
def of (embeddings : Embeddings) (id : MapId) : IdSet .map := embeddings.getD id ∅

/-- The embeddings with those of one more map added under the map's own identifier. -/
def addMap (embeddings : Embeddings) (map : NetworkMap) : Embeddings :=
  embeddings.insert map.id (embeddings.of map.id ∪
    Std.ExtTreeSet.ofList (map.readableEmbedded.filter (!·.isZero)))

/-- The embeddings of a list of maps. -/
def ofMaps (maps : List NetworkMap) : Embeddings := maps.foldl addMap ∅

/-- All maps that can be reached from the given one by one embedding or more. -/
def nested (embeddings : Embeddings) (id : MapId) : IdSet .map :=
  (explore (m := Id) (fun wave _ => (wave.toList.flatMap fun id => (embeddings.of id).toList, ()))
    (embeddings.of id) ()).1

end Embeddings

/-- The maps reachable from some roots. -/
structure Atlas where
  maps : MapTable
  roots : IdSet .map
  /-- Maps that were asked for and did not come. -/
  missing : IdSet .map
  /-- The number of times that maps were asked for. -/
  waves : Nat
  deriving DecidableEq

namespace Atlas

/-- The maps with their nested maps filled in, as the embeddings of all of them have it. -/
def close (maps : MapTable) : MapTable :=
  let embeddings := Embeddings.ofMaps maps.values
  maps.map fun key map => { map with submaps := embeddings.nested key }

/-- The atlas of known maps. -/
def ofMaps (roots : IdSet .map) (maps : MapTable) (missing : IdSet .map) : Atlas where
  maps := close maps
  roots := roots
  missing := missing
  waves := 0

/-- The maps embedded directly in the given one, in ascending order. -/
def children (atlas : Atlas) (id : MapId) : List MapId :=
  ((Embeddings.ofMaps atlas.maps.values).of id).toList

/-- The maps nested in the given one at any depth; none if it is not in the atlas. -/
def submaps (atlas : Atlas) (id : MapId) : IdSet .map :=
  match atlas.maps[id]? with
  | some map => map.submaps
  | none => ∅

/-- The given maps and all maps nested in them. -/
def expandScope (atlas : Atlas) (roots : List MapId) : IdSet .map :=
  (roots.filter (!·.isZero)).foldl (fun scope root => scope.insert root ∪ atlas.submaps root) ∅

/-- The roots that exist and are visible, in ascending order. -/
def accessible (atlas : Atlas) : List MapId := atlas.roots.toList.filter (atlas.maps.contains ·)

/-- What has been learned while maps are being fetched. -/
structure Survey where
  maps : MapTable
  missing : IdSet .map
  waves : Nat

/-- Fetch one wave of maps. Maps that were not asked for are ignored, and of several with one
identifier the last is kept. Every map embedded in one that came is reported, whatever the
permission. -/
def fetchWave {m : Type → Type} [Monad m] (feed : IdSet .map → m (List NetworkMap))
    (wave : IdSet .map) (survey : Survey) : m (List MapId × Survey) := do
  let answer ← feed wave
  let arrived := answer.filter (wave.contains ·.id)
  let maps := arrived.foldl (fun maps map => maps.insert map.id map) survey.maps
  pure ((arrived.flatMap NetworkMap.embedded).filter (!·.isZero),
    { maps
      missing := survey.missing ∪ wave.filter (!maps.contains ·)
      waves := survey.waves + 1 })

/-- Fetch the roots and all maps nested in them. -/
def discover {m : Type → Type} [Monad m] (feed : IdSet .map → m (List NetworkMap))
    (roots : IdSet .map) : m Atlas := do
  let roots := roots.filter (!·.isZero)
  let (_, survey) ← explore (fetchWave feed) roots ⟨∅, ∅, 0⟩
  pure { ofMaps roots survey.maps survey.missing with waves := survey.waves }

end Atlas

end ProblemBoard
