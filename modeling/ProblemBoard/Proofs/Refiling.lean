import ProblemBoard.Proofs.Models

/-! # A navigation tree reads back from its own text

The text of a tree lists its items under their keys in the order of the tree. The reader files them one after
the other, and since no key occurs twice each of them comes to stand behind those before it. So a tree that is
read from its own text is the same tree, whichever way it has been made: its items may be filed under the keys
of others, and its parents may run in circles.
-/

namespace ProblemBoard.Navigation.Tree

open Json Decimal

section Filing

variable {entries more : List (ItemId × Item)}

/-- An item under a new key comes last. -/
theorem fileEntry_of_not_mem {key : ItemId} (item : Item) (fresh : key ∉ entries.map Prod.fst) :
    fileEntry key item entries = entries ++ [(key, item)] := by
  induction entries with
  | nil => rfl
  | cons entry rest ih =>
    rw [List.map_cons, List.mem_cons, not_or] at fresh
    rw [fileEntry, if_neg fun same => fresh.1 same.symm, ih fresh.2]
    rfl

/-- Items under new keys, no key twice, come behind those that are filed. -/
theorem entries_foldl_file {tree : Tree} (distinct : (entries.map Prod.fst).Nodup)
    (fresh : ∀ key ∈ entries.map Prod.fst, key ∉ tree.keys) :
    (entries.foldl (fun tree entry => tree.file entry.1 entry.2) tree).entries = tree.entries ++ entries := by
  induction entries generalizing tree with
  | nil => simp
  | cons entry rest ih =>
    rw [List.map_cons, List.nodup_cons] at distinct
    rw [List.map_cons, List.forall_mem_cons] at fresh
    have filed : (tree.file entry.1 entry.2).entries = tree.entries ++ [entry] :=
      fileEntry_of_not_mem entry.2 fresh.1
    have others (key : ItemId) (member : key ∈ rest.map Prod.fst) : key ∉ (tree.file entry.1 entry.2).keys := by
      rw [keys, filed, List.map_append, List.mem_append, not_or]
      refine ⟨fresh.2 key member, ?_⟩
      rintro here
      obtain rfl : key = entry.1 := by simpa using here
      exact distinct.1 member
    rw [List.foldl_cons, ih distinct.2 others, filed, List.append_assoc]
    rfl

/-- Filing the entries of a tree one after the other gives the tree. -/
theorem ofEntries_entries (tree : Tree) : ofEntries tree.entries = tree := by
  have same : (ofEntries tree.entries).entries = tree.entries :=
    entries_foldl_file tree.keys_nodup fun _ _ => List.not_mem_nil
  rwa [Tree.mk.injEq]

end Filing

theorem decoder_toNode (depth : Nat) (tree : Tree) : decoder depth tree.toJson.toNode = .ok tree := by
  have keys (entry : ItemId × Item) (_ : entry ∈ tree.entries) :
      Decoder.identKey (.ofText (natText entry.1.toNat)) = .ok entry.1 := Decoder.identKey_natText entry.1
  have values (entry : ItemId × Item) (_ : entry ∈ tree.entries) :
      Item.decoder (depth + 2) entry.2.toJson.toNode = .ok entry.2 := entry.2.decoder_toNode (depth + 2)
  have items := Decoder.entries_toNode (fun key : ItemId => natText key.toNat) Item.toJson keys values
  rw [toJson, decoder]
  apply Fields.decoder_toNode
  · simp [fields]
  · simp
  · simp only [fields, Fields.read_map]
    rw [Fields.read_required (by simp [Fields.find?]) items]
    exact congrArg Except.ok tree.ofEntries_entries

theorem whole_toJson (tree : Tree) : tree.toJson.Whole := by
  have items : ∀ member ∈ tree.entries.map (fun entry => (natText entry.1.toNat, entry.2.toJson)),
      member.2.Whole := by
    rw [List.forall_mem_map]
    exact fun entry _ => entry.2.whole_toJson
  rw [toJson, whole_object, List.forall_mem_singleton, whole_object]
  exact items

/-- A way to go on with a tree. -/
inductive Step where
  | insert (item : Item)
  /-- Make the tree anew from some items. -/
  | rebuild (items : List Item)
  /-- Read a tree from a text, in place of the one at hand. -/
  | load (text : String)
  | breakCycles
  | propagate

/-- The tree after a step. A text that holds no tree changes nothing. -/
def perform (tree : Tree) : Step → Tree
  | .insert item => tree.insert item
  | .rebuild items => ofItems items
  | .load text => (decoder.run text).toOption.getD tree
  | .breakCycles => tree.breakCycles.1
  | .propagate => tree.propagate

/-- From whichever tree one starts, and whatever steps one takes, the tree that results is read from its own
text as it is: with the same keys in the same order, and the same items under them. -/
theorem reads_back_after (start : Tree) (steps : List Step) :
    let tree := steps.foldl perform start
    decoder.ReadsBack tree.toJson tree ∧ tree.perform (.load tree.toJson.compact) = tree := by
  intro tree
  have back : decoder.ReadsBack tree.toJson tree :=
    Decoder.readsBack_of_whole tree.whole_toJson (tree.decoder_toNode 0)
  refine ⟨back, ?_⟩
  rw [perform, back.compact]
  rfl

/-- Such a tree may hold two items that are each other's parents, each filed under the key of the other. -/
example :
    let tree := empty.perform (.load "\x7b\"items\":\x7b\"2\":[1,\"\",2,0],\"1\":[2,\"\",1,0]\x7d\x7d")
    tree.keys = [⟨2⟩, ⟨1⟩] ∧ tree.items.map Item.id = [⟨1⟩, ⟨2⟩] := by
  decide +kernel

end ProblemBoard.Navigation.Tree
