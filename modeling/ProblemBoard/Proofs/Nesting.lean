import ProblemBoard.Atlas
import ProblemBoard.Proofs.Exploration

/-! # Nested maps are the maps that embeddings lead to

One map embeds another readably when a readable element of it names the other; the nested maps that
an atlas fills in are those reached by one such step or more. The steps go by the maps' own
identifiers, whatever keys the maps are filed under.
-/

namespace ProblemBoard

open Relation

/-- A map of the list embeds another map through an element of any permission. -/
def Embeds (maps : List NetworkMap) (outer inner : MapId) : Prop :=
  inner ≠ .zero ∧ ∃ map ∈ maps, map.id = outer ∧ inner ∈ map.embedded

/-- A map of the list embeds another map through a readable element. -/
def EmbedsReadably (maps : List NetworkMap) (outer inner : MapId) : Prop :=
  inner ≠ .zero ∧ ∃ map ∈ maps, map.id = outer ∧ inner ∈ map.readableEmbedded

/-- A map that shows nothing but other maps, with one permission for all of them. -/
def NetworkMap.embedding (id : MapId) (permission : Permission) (inner : List MapId) : NetworkMap where
  id := id
  name := ""
  severityFloor := .notClassified
  unacknowledgedOnly := false
  elements := inner.map fun other => ⟨.map other, permission⟩
  links := []
  submaps := ∅

theorem EmbedsReadably.embeds {maps : List NetworkMap} {outer inner : MapId}
    (readably : EmbedsReadably maps outer inner) : Embeds maps outer inner := by
  obtain ⟨nonzero, map, member, named, element⟩ := readably
  exact ⟨nonzero, map, member, named, map.readableEmbedded_subset element⟩

namespace Embeddings

theorem of_insert {embeddings : Embeddings} {key id : MapId} {inner : IdSet .map} :
    of (embeddings.insert key inner) id = if key = id then inner else embeddings.of id := by
  simp [of, Std.ExtTreeMap.getD_insert]

theorem mem_of_addMap {embeddings : Embeddings} {map : NetworkMap} {outer inner : MapId} :
    inner ∈ (embeddings.addMap map).of outer ↔
      inner ∈ embeddings.of outer ∨
        inner ≠ .zero ∧ map.id = outer ∧ inner ∈ map.readableEmbedded := by
  rw [addMap, of_insert]
  split
  · next same =>
    subst same
    simp [Std.ExtTreeSet.mem_union_iff, Std.ExtTreeSet.mem_ofList, ← Ident.isZero_iff, and_comm]
  · next differ => simp [differ]

theorem mem_of_ofMaps {maps : List NetworkMap} {outer inner : MapId} :
    inner ∈ (ofMaps maps).of outer ↔ EmbedsReadably maps outer inner := by
  have from_any (embeddings : Embeddings) :
      inner ∈ (maps.foldl addMap embeddings).of outer ↔
        inner ∈ embeddings.of outer ∨ EmbedsReadably maps outer inner := by
    induction maps generalizing embeddings with
    | nil => simp [EmbedsReadably]
    | cons map rest ih =>
      rw [List.foldl_cons, ih, mem_of_addMap, or_assoc]
      apply or_congr_right
      simp only [EmbedsReadably, List.exists_mem_cons_iff, and_or_left]
  have nothing_before : inner ∉ of ∅ outer := by simp [of]
  exact (from_any ∅).trans (or_iff_right nothing_before)

/-- The nested maps are those that one embedding or more leads to. -/
theorem mem_nested {embeddings : Embeddings} {id inner : MapId} :
    inner ∈ embeddings.nested id ↔
      TransGen (fun outer inner => inner ∈ embeddings.of outer) id inner := by
  have reports (wave : IdSet .map) (inner : MapId) :
      inner ∈ (wave.toList.flatMap fun id => (embeddings.of id).toList) ↔
        ∃ outer ∈ wave, inner ∈ embeddings.of outer := by
    simp
  rw [nested, mem_explore_iff_reached reports, TransGen.head'_iff]
  rfl

theorem mem_nested_ofMaps {maps : List NetworkMap} {id inner : MapId} :
    inner ∈ (ofMaps maps).nested id ↔ TransGen (EmbedsReadably maps) id inner := by
  rw [mem_nested]
  simp only [mem_of_ofMaps]

end Embeddings

namespace Atlas

theorem getElem?_close {maps : MapTable} {key : MapId} :
    (close maps)[key]? =
      (maps[key]?).map fun map =>
        { map with submaps := (Embeddings.ofMaps maps.values).nested key } := by
  simp [close]

theorem mem_close {maps : MapTable} {key : MapId} : key ∈ close maps ↔ key ∈ maps := by
  simp [close]

/-- Nested maps that the maps bring along make no difference. -/
theorem close_bringing (maps : MapTable) (brought : MapId → IdSet .map) :
    close (maps.map fun key map => { map with submaps := brought key }) = close maps := by
  have steps : EmbedsReadably (maps.map fun key map => { map with submaps := brought key }).values =
      EmbedsReadably maps.values := by
    funext outer inner
    simp only [EmbedsReadably, mem_values, Std.ExtTreeMap.getElem?_map, Option.map_eq_some_iff]
    apply propext
    constructor
    · rintro ⟨nonzero, _, ⟨key, map, found, rfl⟩, named, element⟩
      exact ⟨nonzero, map, ⟨key, found⟩, named, element⟩
    · rintro ⟨nonzero, map, ⟨key, found⟩, named, element⟩
      exact ⟨nonzero, _, ⟨key, map, found, rfl⟩, named, element⟩
  have nested (key : MapId) :
      (Embeddings.ofMaps (maps.map fun key map => { map with submaps := brought key }).values).nested key =
        (Embeddings.ofMaps maps.values).nested key := by
    ext inner
    rw [Embeddings.mem_nested_ofMaps, Embeddings.mem_nested_ofMaps, steps]
  ext key
  simp [getElem?_close, nested, Function.comp_def]

theorem submaps_ofMaps {roots missing : IdSet .map} {maps : MapTable} {key : MapId}
    (filed : key ∈ maps) :
    (ofMaps roots maps missing).submaps key = (Embeddings.ofMaps maps.values).nested key := by
  obtain ⟨map, found⟩ := mem_iff_exists_getElem?.mp filed
  simp [submaps, ofMaps, getElem?_close, found]

theorem mem_submaps_ofMaps {roots missing : IdSet .map} {maps : MapTable} {key inner : MapId}
    (filed : key ∈ maps) :
    inner ∈ (ofMaps roots maps missing).submaps key ↔
      TransGen (EmbedsReadably maps.values) key inner := by
  rw [submaps_ofMaps filed, Embeddings.mem_nested_ofMaps]

/-- Nothing is nested in a map that is not filed. -/
theorem filed_of_mem_submaps {roots missing : IdSet .map} {maps : MapTable} {key inner : MapId}
    (nested : inner ∈ (ofMaps roots maps missing).submaps key) : key ∈ maps := by
  rw [submaps] at nested
  split at nested
  · next map found => exact mem_close.mp (mem_iff_exists_getElem?.mpr ⟨map, found⟩)
  · exact absurd nested Std.ExtTreeSet.not_mem_empty

/-- A scope holds the maps it starts from and what is nested in them. -/
theorem mem_expandScope {atlas : Atlas} {roots : List MapId} {id : MapId} :
    id ∈ atlas.expandScope roots ↔
      ∃ root ∈ roots, root ≠ .zero ∧ (id = root ∨ id ∈ atlas.submaps root) := by
  rw [expandScope, mem_foldl_insert_union]
  simp only [Std.ExtTreeSet.not_mem_empty, false_or, List.mem_filter, Bool.not_eq_true',
    ← Bool.not_eq_true, Ident.isZero_iff, and_assoc]

theorem expandScope_subset {atlas : Atlas} {roots more : List MapId} (within : roots ⊆ more) :
    ∀ id ∈ atlas.expandScope roots, id ∈ atlas.expandScope more := by
  intro id member
  obtain ⟨root, starts, reached⟩ := mem_expandScope.mp member
  exact mem_expandScope.mpr ⟨root, within starts, reached⟩

end Atlas

end ProblemBoard
