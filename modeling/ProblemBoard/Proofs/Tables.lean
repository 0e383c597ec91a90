import Mathlib.Data.Set.Card
import ProblemBoard.Ident
import Std.Data.ExtTreeMap

/-! # Finite tables and sets by their members

A fold whose steps can only add to a property adds up what the steps add. The values of a table are
those found under its keys, each as often as there are keys. A set built up from a list of
identifiers, each with a set of its own, holds exactly those identifiers and the members of their
sets.
-/

namespace ProblemBoard

section Folds

variable {σ α β : Type} (step : σ → α → σ) {nexts : List α} {state : σ}

theorem foldl_iff (holds : σ → Prop) {adds : α → Prop}
    (each : ∀ state next, holds (step state next) ↔ holds state ∨ adds next) :
    holds (nexts.foldl step state) ↔ holds state ∨ ∃ next ∈ nexts, adds next := by
  induction nexts generalizing state with
  | nil => simp
  | cons next rest ih =>
    rw [List.foldl_cons, ih, each, or_assoc]
    simp

theorem foldl_keeps (view : σ → β) (each : ∀ state next, view (step state next) = view state) :
    view (nexts.foldl step state) = view state := by
  induction nexts generalizing state with
  | nil => rfl
  | cons next rest ih => rw [List.foldl_cons, ih, each]

end Folds

section Tables

variable {α β : Type} [Ord α] [Std.TransOrd α] [Std.LawfulEqOrd α]

omit [Std.LawfulEqOrd α] in
theorem values_eq_map_toList (table : Std.ExtTreeMap α β) :
    table.values = table.toList.map Prod.snd := by
  have listed : table.values = table.foldr (fun _ value values => value :: values) [] := by
    obtain ⟨⟨quotient⟩⟩ := table
    induction quotient using Quotient.ind with
    | _ tree => rfl
  rw [listed, Std.ExtTreeMap.foldr_eq_foldr_toList]
  induction table.toList with
  | nil => rfl
  | cons entry rest ih => rw [List.foldr_cons, ih, List.map_cons]

theorem mem_values {table : Std.ExtTreeMap α β} {value : β} :
    value ∈ table.values ↔ ∃ key : α, table[key]? = some value := by
  simp [values_eq_map_toList, Std.ExtTreeMap.mem_toList_iff_getElem?_eq_some]

omit [Std.LawfulEqOrd α] in
theorem mem_iff_exists_getElem? {table : Std.ExtTreeMap α β} {key : α} :
    key ∈ table ↔ ∃ value, table[key]? = some value := by
  rw [Std.ExtTreeMap.mem_iff_isSome_getElem?, Option.isSome_iff_exists]

/-- A value occurs as often as there are keys under which it is found. -/
theorem count_values [DecidableEq α] [DecidableEq β] (table : Std.ExtTreeMap α β) (value : β) :
    (table.values.count value : ENat) = Set.encard {key : α | table[key]? = some value} := by
  let keys := (table.toList.filter (·.2 = value)).map Prod.fst
  have distinct : keys.Nodup := by
    have all_distinct : (table.toList.map Prod.fst).Nodup := by
      rw [Std.ExtTreeMap.map_fst_toList_eq_keys]
      exact Std.ExtTreeMap.nodup_keys
    exact all_distinct.sublist (List.filter_sublist.map Prod.fst)
  have listed : {key : α | table[key]? = some value} = (keys.toFinset : Set α) := by
    ext key
    simp only [keys, List.coe_toFinset, Set.mem_ofPred_eq, List.mem_map, List.mem_filter, Prod.exists,
      Std.ExtTreeMap.mem_toList_iff_getElem?_eq_some, decide_eq_true_eq]
    constructor
    · intro found
      exact ⟨key, value, ⟨found, rfl⟩, rfl⟩
    · rintro ⟨_, _, ⟨found, rfl⟩, rfl⟩
      exact found
  rw [listed, Set.encard_coe_eq_coe_finsetCard, List.toFinset_card_of_nodup distinct, List.length_map,
    values_eq_map_toList, List.count_eq_countP, List.countP_map, List.countP_eq_length_filter]
  rfl

/-- After rows have been filed, of which those under one key have one value, a key is found with the
value of its rows, or with what was found before if it has none. -/
theorem getElem?_foldl_insert {γ : Type} {key : γ → α} {value : γ → β} {rows : List γ}
    (consistent : ∀ row ∈ rows, ∀ other ∈ rows, key row = key other → value row = value other)
    {table : Std.ExtTreeMap α β} {at_key : α} {found : β} :
    (rows.foldl (fun table row => table.insert (key row) (value row)) table)[at_key]? = some found ↔
      (∃ row ∈ rows, key row = at_key ∧ value row = found) ∨
        (∀ row ∈ rows, key row ≠ at_key) ∧ table[at_key]? = some found := by
  induction rows generalizing table with
  | nil => simp
  | cons first rest ih =>
    have consistent_rest : ∀ row ∈ rest, ∀ other ∈ rest, key row = key other → value row = value other :=
      fun row member other there =>
        consistent row (List.mem_cons_of_mem _ member) other (List.mem_cons_of_mem _ there)
    rw [List.foldl_cons, ih consistent_rest, Std.ExtTreeMap.getElem?_insert]
    by_cases same : key first = at_key
    · rw [if_pos (Std.compare_eq_iff_eq.mpr same)]
      constructor
      · rintro (⟨row, member, named, held⟩ | ⟨_, held⟩)
        · exact .inl ⟨row, List.mem_cons_of_mem _ member, named, held⟩
        · exact .inl ⟨first, List.mem_cons_self .., same, Option.some.inj held⟩
      · rintro (⟨row, member, named, held⟩ | ⟨none_there, _⟩)
        · by_cases again : ∃ other ∈ rest, key other = at_key
          · obtain ⟨other, later, there⟩ := again
            have agree := consistent other (List.mem_cons_of_mem _ later) row member (there.trans named.symm)
            exact .inl ⟨other, later, there, agree.trans held⟩
          · have agree := consistent first (List.mem_cons_self ..) row member (same.trans named.symm)
            exact .inr ⟨fun other later there => again ⟨other, later, there⟩,
              congrArg some (agree.trans held)⟩
        · exact absurd same (none_there first (List.mem_cons_self ..))
    · rw [if_neg fun equal => same (Std.compare_eq_iff_eq.mp equal)]
      simp [same]

/-- One more identifier in the set that is kept under one key. -/
theorem mem_getD_insert_insert {entity : Entity} {table : Std.ExtTreeMap α (IdSet entity)} {key at_key : α}
    {added id : Ident entity} :
    id ∈ (table.insert key ((table.getD key ∅).insert added)).getD at_key ∅ ↔
      id ∈ table.getD at_key ∅ ∨ key = at_key ∧ id = added := by
  rw [Std.ExtTreeMap.getD_insert]
  split
  · next same =>
    obtain rfl := Std.compare_eq_iff_eq.mp same
    rw [Std.ExtTreeSet.mem_insert, Std.compare_eq_iff_eq, or_comm]
    simp [eq_comm]
  · next differ =>
    rw [Std.compare_eq_iff_eq] at differ
    simp [differ]

theorem map_insert {γ : Type} (change : β → γ) (table : Std.ExtTreeMap α β) (key : α) (value : β) :
    (table.insert key value).map (fun _ => change) = (table.map fun _ => change).insert key (change value) := by
  ext other found
  simp only [Std.ExtTreeMap.getElem?_map, Std.ExtTreeMap.getElem?_insert]
  split <;> simp

theorem map_erase {γ : Type} (change : β → γ) (table : Std.ExtTreeMap α β) (key : α) :
    (table.erase key).map (fun _ => change) = (table.map fun _ => change).erase key := by
  ext other found
  simp only [Std.ExtTreeMap.getElem?_map, Std.ExtTreeMap.getElem?_erase]
  split <;> simp

/-- A new row takes no other away. -/
theorem values_subset_insert {table : Std.ExtTreeMap α β} {key : α} (absent : key ∉ table) (value : β) :
    table.values ⊆ (table.insert key value).values := by
  intro other member
  obtain ⟨at_key, found⟩ := mem_values.mp member
  have differ : ¬ compare key at_key = .eq := by
    intro same
    obtain rfl := Std.compare_eq_iff_eq.mp same
    exact absent (mem_iff_exists_getElem?.mpr ⟨other, found⟩)
  exact mem_values.mpr ⟨at_key, by rwa [Std.ExtTreeMap.getElem?_insert, if_neg differ]⟩

theorem eq_or_mem_of_mem_values_insert {table : Std.ExtTreeMap α β} {key : α} {value other : β}
    (member : other ∈ (table.insert key value).values) : other = value ∨ other ∈ table.values := by
  obtain ⟨at_key, found⟩ := mem_values.mp member
  rw [Std.ExtTreeMap.getElem?_insert] at found
  split at found
  · exact .inl (Option.some.inj found).symm
  · exact .inr (mem_values.mpr ⟨at_key, found⟩)

theorem values_erase_subset (table : Std.ExtTreeMap α β) (key : α) :
    (table.erase key).values ⊆ table.values := by
  intro value member
  obtain ⟨at_key, found⟩ := mem_values.mp member
  rw [Std.ExtTreeMap.getElem?_erase] at found
  split at found
  · cases found
  · exact mem_values.mpr ⟨at_key, found⟩

/-- Overwriting a row with a change of it is changing the row. -/
theorem insert_eq_modify {table : Std.ExtTreeMap α β} {key : α} {value : β} (found : table[key]? = some value)
    (change : β → β) : table.insert key (change value) = table.modify key change := by
  ext other held
  rw [Std.ExtTreeMap.getElem?_insert, Std.ExtTreeMap.getElem?_modify]
  split
  · rw [found, Option.map_some]
  · rfl

/-- Changing one row changes one value at most. -/
theorem mem_values_modify {table : Std.ExtTreeMap α β} {key : α} {change : β → β} {value : β} :
    value ∈ (table.modify key change).values ↔
      (∃ before, table[key]? = some before ∧ value = change before) ∨
        ∃ other ≠ key, table[other]? = some value := by
  simp only [mem_values, Std.ExtTreeMap.getElem?_modify]
  constructor
  · rintro ⟨other, found⟩
    split at found
    · obtain ⟨before, held, rfl⟩ := Option.map_eq_some_iff.mp found
      exact .inl ⟨before, held, rfl⟩
    · next differ => exact .inr ⟨other, fun same => differ (Std.compare_eq_iff_eq.mpr same.symm), found⟩
  · rintro (⟨before, held, rfl⟩ | ⟨other, differ, found⟩)
    · exact ⟨key, by rw [if_pos Std.ReflCmp.compare_self, held, Option.map_some]⟩
    · exact ⟨other, by rwa [if_neg fun same => differ (Std.compare_eq_iff_eq.mp same).symm]⟩

/-- Every entry of the table has the property. -/
def AllEntries (holds : α → β → Prop) (table : Std.ExtTreeMap α β) : Prop :=
  ∀ (key : α) (value : β), table[key]? = some value → holds key value

namespace AllEntries

variable {holds : α → β → Prop} {table : Std.ExtTreeMap α β}

omit [Std.LawfulEqOrd α] in
theorem empty : AllEntries holds ∅ := by
  intro key value found
  rw [Std.ExtTreeMap.getElem?_empty] at found
  cases found

theorem insert (all : AllEntries holds table) {key : α} {value : β} (new : holds key value) :
    AllEntries holds (table.insert key value) := by
  intro other found held
  rw [Std.ExtTreeMap.getElem?_insert] at held
  split at held
  · next same =>
    obtain rfl := Std.compare_eq_iff_eq.mp same
    obtain rfl := Option.some.inj held
    exact new
  · exact all other found held

omit [Std.LawfulEqOrd α] in
theorem erase (all : AllEntries holds table) (key : α) : AllEntries holds (table.erase key) := by
  intro other found held
  rw [Std.ExtTreeMap.getElem?_erase] at held
  split at held
  · cases held
  · exact all other found held

end AllEntries

end Tables

section Sets

variable {entity : Entity}

/-- A set has as many members as its size says. -/
theorem encard_eq_size {α : Type} [Ord α] [Std.TransOrd α] [Std.LawfulEqOrd α] [DecidableEq α]
    (set : Std.ExtTreeSet α) : Set.encard {value | value ∈ set} = set.size := by
  have distinct : set.toList.Nodup :=
    Std.ExtTreeSet.distinct_toList.imp fun differ same => differ (Std.compare_eq_iff_eq.mpr same)
  have listed : {value | value ∈ set} = (set.toList.toFinset : Set α) := by
    ext value
    rw [List.coe_toFinset, Set.mem_ofPred_eq, Set.mem_ofPred_eq, Std.ExtTreeSet.mem_toList]
  rw [listed, Set.encard_coe_eq_coe_finsetCard, List.toFinset_card_of_nodup distinct, Std.ExtTreeSet.length_toList]

theorem any_eq_true_iff {α : Type} [Ord α] [Std.TransOrd α] [Std.LawfulEqOrd α] {set : Std.ExtTreeSet α}
    {holds : α → Bool} : set.any holds = true ↔ ∃ id ∈ set, holds id = true := by
  let visit (id : α) (_ : Option Bool × Unit) : Id (ForInStep (Option Bool × Unit)) :=
    if holds id then pure (.done (some true, ())) else pure (.yield (none, ()))
  have looped : set.any holds =
      ((forIn set (none, ()) visit : Id (Option Bool × Unit)).run.1).getD false := by
    obtain ⟨⟨⟨quotient⟩⟩⟩ := set
    induction quotient using Quotient.ind with
    | _ tree =>
      change Std.DTreeMap.Internal.Impl.any tree.inner (fun id _ => holds id) =
        ((forIn tree.inner (none, ()) fun entry found => visit entry.1 found :
          Id (Option Bool × Unit)).run.1).getD false
      unfold Std.DTreeMap.Internal.Impl.any
      rfl
  have listed : set.any holds = set.toList.any holds := by
    rw [looped, Std.ExtTreeSet.forIn_eq_forIn_toList]
    induction set.toList with
    | nil => rfl
    | cons id rest ih =>
      rw [List.forIn_cons, List.any_cons, ← ih]
      cases hit : holds id <;> simp [visit, hit]
  simp [listed]

theorem mem_foldl_insert_union {ids : List (Ident entity)} {more : Ident entity → IdSet entity}
    {set : IdSet entity} {id : Ident entity} :
    id ∈ ids.foldl (fun set next => set.insert next ∪ more next) set ↔
      id ∈ set ∨ ∃ next ∈ ids, id = next ∨ id ∈ more next := by
  refine foldl_iff _ (id ∈ ·) fun set next => ?_
  rw [Std.ExtTreeSet.mem_union_iff, Std.ExtTreeSet.mem_insert, Std.compare_eq_iff_eq, or_comm (a := _ = _),
    or_assoc, eq_comm]

end Sets

end ProblemBoard
