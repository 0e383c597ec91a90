import ProblemBoard.Navigation
import ProblemBoard.NetworkMap.Json

/-! # Navigation trees in JSON

A tree is an object of items, each under the key it is filed under, in the order of the tree. A tree
is taken as it is read: nothing is repaired, and a repeated key replaces the item in its place.
-/

namespace ProblemBoard.Navigation

namespace Item

def toJson (item : Item) : Json :=
  .object [("id", item.id.toJson), ("name", .string item.name), ("parent_id", item.parent.toJson),
    ("linked_map_id", item.linked.toJson), ("child_map_ids", item.childMaps.toJson)]

def fields : Fields Item :=
  Item.mk <$> .required "id" .ident <*> .optional "name" .string "" <*>
    .required "parent_id" .ident <*> .required "linked_map_id" .ident <*>
    .optional "child_map_ids" .idSet ∅

def decoder : Decoder Item := fields.decoder

end Item

namespace Tree

def toJson (tree : Tree) : Json :=
  .object [("items", .object (tree.entries.map fun entry =>
    (Decimal.natText entry.1.toNat, entry.2.toJson)))]

/-- The tree that results from filing items under keys one after the other. -/
def ofEntries (entries : List (ItemId × Item)) : Tree :=
  entries.foldl (fun tree entry => tree.file entry.1 entry.2) empty

def fields : Fields Tree :=
  ofEntries <$> .required "items" (.entries Decoder.identKey Item.decoder)

def decoder : Decoder Tree := fields.decoder

end Tree

end ProblemBoard.Navigation
