import ProblemBoard.Ident

/-! # The navigation tree

The board is navigated by a tree of items, each of which may show one map. Items arrive in any order
with parent identifiers that may name nothing or run in circles. `Tree.ofItems` puts this right:
`breakCycles` detaches one item of every circle, and `propagate` tells each item which maps are
linked below it.

A tree files each item under a key and keeps the order in which keys were first filed. The key is
the item's own identifier unless a tree is read from text, where an item may be filed under any key.
All walks go by keys.
-/

namespace ProblemBoard.Navigation

/-- One item of the navigation tree. -/
structure Item where
  id : ItemId
  name : String
  /-- The item above this one, or zero at the top. -/
  parent : ItemId
  /-- The map shown when the item is selected, or zero. -/
  linked : MapId
  /-- The maps linked to the items below this one. -/
  childMaps : IdSet .map
  deriving DecidableEq

/-- The maps whose problems count for the item: its own map first, then those below it. -/
def Item.scopeRoots (item : Item) : List MapId :=
  (if item.linked.isZero then [] else [item.linked]) ++ item.childMaps.toList

/-- Items filed under distinct keys, in the order in which the keys were first filed. -/
structure Tree where
  entries : List (ItemId × Item)
  keys_nodup : (entries.map Prod.fst).Nodup
  deriving DecidableEq

/-- The entries with one key's item replaced, or with a new entry at the end. -/
def fileEntry (key : ItemId) (item : Item) : List (ItemId × Item) → List (ItemId × Item)
  | [] => [(key, item)]
  | entry :: rest =>
      if entry.1 = key then (key, item) :: rest else entry :: fileEntry key item rest

theorem mem_keys_fileEntry {key other : ItemId} {item : Item} {entries : List (ItemId × Item)} :
    other ∈ (fileEntry key item entries).map Prod.fst ↔
      other = key ∨ other ∈ entries.map Prod.fst := by
  induction entries with
  | nil => simp [fileEntry]
  | cons entry rest step =>
    rw [fileEntry]
    split
    · next same => simp [← same]
    · rw [List.map_cons, List.mem_cons, step, List.map_cons, List.mem_cons]
      grind

theorem nodup_keys_fileEntry {key : ItemId} {item : Item} {entries : List (ItemId × Item)}
    (distinct : (entries.map Prod.fst).Nodup) :
    ((fileEntry key item entries).map Prod.fst).Nodup := by
  induction entries with
  | nil => simp [fileEntry]
  | cons entry rest step =>
    rw [List.map_cons, List.nodup_cons] at distinct
    rw [fileEntry]
    split
    · next same => simpa [← same] using distinct
    · next differ =>
      rw [List.map_cons, List.nodup_cons, mem_keys_fileEntry]
      exact ⟨fun member => member.elim differ distinct.1, step distinct.2⟩

/-- The entries that are not filed under a key. -/
def eraseKey (key : ItemId) (entries : List (ItemId × Item)) : List (ItemId × Item) :=
  entries.filter (·.1 != key)

/-- Without an entry that was there, the entries are fewer. -/
theorem length_eraseKey_lt {key : ItemId} {entries : List (ItemId × Item)} {item : Item}
    (found : entries.lookup key = some item) : (eraseKey key entries).length < entries.length := by
  obtain ⟨front, back, rfl, _⟩ := List.lookup_eq_some_iff.mp found
  have front_le := List.length_filter_le (fun entry : ItemId × Item => entry.1 != key) front
  have back_le := List.length_filter_le (fun entry : ItemId × Item => entry.1 != key) back
  simp only [eraseKey, List.filter_append, List.length_append, List.filter_cons, List.length_cons,
    bne_self_eq_false, Bool.false_eq_true, if_false]
  omega

namespace Tree

def empty : Tree := ⟨[], List.nodup_nil⟩

instance : Inhabited Tree := ⟨empty⟩

/-- File an item under a key; a key already in use keeps its place. -/
def file (tree : Tree) (key : ItemId) (item : Item) : Tree :=
  ⟨fileEntry key item tree.entries, nodup_keys_fileEntry tree.keys_nodup⟩

/-- File an item under its own identifier. -/
def insert (tree : Tree) (item : Item) : Tree := tree.file item.id item

def keys (tree : Tree) : List ItemId := tree.entries.map Prod.fst

def items (tree : Tree) : List Item := tree.entries.map Prod.snd

def size (tree : Tree) : Nat := tree.entries.length

/-- The item filed under a key. -/
def get? (tree : Tree) (key : ItemId) : Option Item := tree.entries.lookup key

/-- Change the item filed under a key, if there is one. -/
def modify (tree : Tree) (key : ItemId) (change : Item → Item) : Tree where
  entries := tree.entries.map fun entry => if entry.1 = key then (key, change entry.2) else entry
  keys_nodup := by
    have same : (tree.entries.map fun entry =>
        if entry.1 = key then (key, change entry.2) else entry).map Prod.fst =
          tree.entries.map Prod.fst := by
      rw [List.map_map]
      refine List.map_congr_left fun entry _ => ?_
      by_cases hit : entry.1 = key <;> simp [hit]
    exact same ▸ tree.keys_nodup

/-- The items whose parent is the given one, in the order of the tree. -/
def children (tree : Tree) (parent : ItemId) : List Item :=
  tree.items.filter (·.parent = parent)

/-- Climb from one item to the next above it, among entries not yet visited. The result lists the
keys visited and the parent at which the climb ended: the top, a key that is not filed, or one
that has been visited before. -/
def climb (entries : List (ItemId × Item)) (parent : ItemId) : List ItemId × ItemId :=
  if parent.isZero then ([], parent)
  else
    match _found : entries.lookup parent with
    | none => ([], parent)
    | some item =>
        let (above, stop) := climb (eraseKey parent entries) item.parent
        (parent :: above, stop)
  termination_by entries.length
  decreasing_by exact length_eraseKey_lt _found

/-- The climb from the parent of the item filed under a key, which itself counts as visited. -/
def climbFrom (tree : Tree) (key : ItemId) (item : Item) : List ItemId × ItemId :=
  climb (eraseKey key tree.entries) item.parent

/-- The keys above a key, nearest first. -/
def ancestors (tree : Tree) (key : ItemId) : List ItemId :=
  match tree.get? key with
  | none => []
  | some item => (tree.climbFrom key item).1

/-- Whether the steps from item to parent lead back to where they started. -/
def onCycle (tree : Tree) (key : ItemId) : Bool :=
  match tree.get? key with
  | none => false
  | some item => !key.isZero && (tree.climbFrom key item).2 == key

/-- Move the item filed under a key to the top. -/
def detach (tree : Tree) (key : ItemId) : Tree := tree.modify key fun item =>
  { item with parent := Ident.zero }

/-- Go through the keys and detach each that lies on a cycle at that moment. The result also lists
the detached keys. -/
def breakCyclesAmong (tree : Tree) : List ItemId → Tree × List ItemId
  | [] => (tree, [])
  | key :: rest =>
      if tree.onCycle key then
        let (repaired, detached) := breakCyclesAmong (tree.detach key) rest
        (repaired, key :: detached)
      else breakCyclesAmong tree rest

/-- Detach the first item of every cycle, in the order of the tree. -/
def breakCycles (tree : Tree) : Tree × List ItemId := tree.breakCyclesAmong tree.keys

/-- Add a map to those linked below the items at the given keys. -/
def addChildMap (tree : Tree) (map : MapId) (keys : List ItemId) : Tree :=
  keys.foldl (fun tree key => tree.modify key fun item =>
    { item with childMaps := item.childMaps.insert map }) tree

/-- Tell every item which maps are linked below it. -/
def propagate (tree : Tree) : Tree :=
  tree.items.foldl (fun result item =>
    if item.linked.isZero then result
    else result.addChildMap item.linked (tree.ancestors item.id)) tree

/-- The tree of a list of items: cycles are broken, and the maps linked below each item are worked
out anew. -/
def ofItems (items : List Item) : Tree :=
  (items.foldl (fun tree item => tree.insert { item with childMaps := ∅ }) empty).breakCycles.1.propagate

/-- The maps that count for some item. -/
def referencedMaps (tree : Tree) : IdSet .map := .ofList (tree.items.flatMap Item.scopeRoots)

/-- The maps linked to some item. -/
def linkedMaps (tree : Tree) : IdSet .map :=
  .ofList ((tree.items.map Item.linked).filter (!·.isZero))

end Tree

end ProblemBoard.Navigation
