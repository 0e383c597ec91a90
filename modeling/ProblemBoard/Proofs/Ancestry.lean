import ProblemBoard.Proofs.Climbing
import ProblemBoard.Proofs.Detachment

/-! # The ancestors of a key are the longest way up

A way up from a key goes from item to parent over filed keys, never to the top and never to a key where it
has been. Parents are unique, so of two ways up from one key one is the beginning of the other. A climb only
stops where no way goes on: at the top, at a key that is not filed, or where it has been before. So the ways
up from a key are the beginnings of its ancestors, on trees with cycles as well.
-/

namespace ProblemBoard.Navigation

/-- Of two ways from one key over its parents, whatever the parents are, one is the beginning of the other. -/
theorem prefix_or_prefix_of_isChain {entries : List (ItemId × Item)} {key : ItemId} {way other : List ItemId}
    (chain : List.IsChain (ParentIn entries) (key :: way))
    (also : List.IsChain (ParentIn entries) (key :: other)) : way <+: other ∨ other <+: way := by
  induction way generalizing key other with
  | nil => exact .inl List.nil_prefix
  | cons parent rest ih =>
    cases other with
    | nil => exact .inr List.nil_prefix
    | cons same more =>
      rw [List.isChain_cons_cons] at chain also
      obtain rfl := chain.1.unique also.1
      simpa only [List.cons_prefix_cons, true_and] using ih chain.2 also.2

/-- A way from the start of a climb that comes by filed keys only, and by none of them twice, ends at the
latest where the climb does. -/
theorem Climbs.prefix_of_isChain {entries : List (ItemId × Item)} {key stop : ItemId} {above way : List ItemId}
    (climbs : Climbs entries key above stop) (chain : List.IsChain (ParentIn entries) (key :: way))
    (filed : ∀ passed ∈ way, passed ≠ .zero ∧ entries.lookup passed ≠ none) (nodup : (key :: way).Nodup) :
    way <+: above := by
  -- Were the way longer than the climb, it would come by the key at which the climb stopped.
  have within (longer : above ++ [stop] <+: way) : False := by
    have passes : stop ∈ way := longer.subset (by simp)
    have distinct : (key :: above ++ [stop]).Nodup :=
      nodup.sublist ((List.cons_prefix_cons.mpr ⟨rfl, longer⟩).sublist)
    rcases climbs.stopped with top | unfiled | visited
    · exact (filed stop passes).1 top
    · exact (filed stop passes).2 unfiled
    · exact (List.nodup_append.mp distinct).2.2 stop visited stop (List.mem_singleton_self _) rfl
  rcases prefix_or_prefix_of_isChain chain climbs.chain with shorter | longer
  · rcases List.prefix_concat_iff.mp shorter with rfl | begins
    · exact (within (List.prefix_refl _)).elim
    · exact begins
  · exact (within longer).elim

namespace Tree

variable {tree : Tree} {key : ItemId}

/-- A way up from a key: each key on it is filed and is the parent of the item filed under the one before,
and the start and the keys on the way are all different. -/
structure LeadsUp (tree : Tree) (key : ItemId) (way : List ItemId) : Prop where
  chain : List.IsChain (ParentIn tree.entries) (key :: way)
  filed : ∀ passed ∈ way, passed ≠ .zero ∧ passed ∈ tree.keys
  nodup : (key :: way).Nodup

namespace LeadsUp

variable {way shorter : List ItemId}

/-- A way up may end anywhere. -/
theorem of_prefix (leads : tree.LeadsUp key way) (begins : shorter <+: way) : tree.LeadsUp key shorter := by
  have start : key :: shorter <+: key :: way := List.cons_prefix_cons.mpr ⟨rfl, begins⟩
  obtain ⟨rest, split⟩ := start
  exact {
    chain := List.IsChain.left_of_append (split ▸ leads.chain)
    filed := fun passed member => leads.filed passed (begins.subset member)
    nodup := leads.nodup.sublist (split ▸ List.sublist_append_left ..) }

/-- No way leads up from a key that is not filed. -/
theorem eq_nil_of_not_mem (leads : tree.LeadsUp key way) (unfiled : key ∉ tree.keys) : way = [] := by
  cases way with
  | nil => rfl
  | cons parent rest =>
    obtain ⟨item, found, _⟩ := (List.isChain_cons_cons.mp leads.chain).1
    exact absurd (mem_keys_iff.mpr ⟨item, found⟩) unfiled

/-- A way up is shorter than the tree is large. -/
theorem length_lt (leads : tree.LeadsUp key way) (present : key ∈ tree.keys) : way.length < tree.size := by
  have filed : key :: way ⊆ tree.keys :=
    List.cons_subset.mpr ⟨present, fun passed member => (leads.filed passed member).2⟩
  have bound := (leads.nodup.subperm filed).length_le
  rwa [List.length_cons, keys, List.length_map] at bound

end LeadsUp

/-- The ancestors are a way up. -/
theorem leadsUp_ancestors : tree.LeadsUp key (tree.ancestors key) := by
  rw [ancestors]
  split
  · exact ⟨List.isChain_singleton key, by simp, List.nodup_singleton key⟩
  · next item found =>
    have climbs := climbs_climbFrom found
    exact {
      chain := List.IsChain.left_of_append (List.cons_append ▸ climbs.chain)
      filed := fun passed member => by
        obtain ⟨_, _, above, filed, _⟩ := Climbs.exists_next climbs.chain (List.mem_cons_of_mem key member)
        exact ⟨climbs.nonzero passed member, mem_keys_iff.mpr ⟨above, filed⟩⟩
      nodup := climbs.nodup }

/-- The ways up from a key are the beginnings of its ancestors. -/
theorem leadsUp_iff {way : List ItemId} : tree.LeadsUp key way ↔ way <+: tree.ancestors key := by
  refine ⟨fun leads => ?_, leadsUp_ancestors.of_prefix⟩
  cases found : tree.get? key with
  | none =>
    have unfiled : key ∉ tree.keys := by simp [mem_keys_iff, found]
    rw [leads.eq_nil_of_not_mem unfiled]
    exact List.nil_prefix
  | some item =>
    have filed (passed : ItemId) (member : passed ∈ way) :
        passed ≠ .zero ∧ tree.entries.lookup passed ≠ none := by
      obtain ⟨nonzero, above⟩ := leads.filed passed member
      obtain ⟨upper, there⟩ := mem_keys_iff.mp above
      exact ⟨nonzero, fun missing => Option.some_ne_none upper (there.symm.trans missing)⟩
    have longest := (climbs_climbFrom found).prefix_of_isChain leads.chain filed leads.nodup
    rwa [ancestors, found]

/-- On every tree, repaired or not, the ancestors of a key are the one way up from the key that cannot be
prolonged, and every other way up is a beginning of it. There are fewer of them than items in the tree, and
none where nothing is filed under the key. -/
theorem ancestors_exact (tree : Tree) (key : ItemId) :
    (∀ way, tree.LeadsUp key way ↔ way <+: tree.ancestors key) ∧
      (∀ way, way = tree.ancestors key ↔
        tree.LeadsUp key way ∧ ∀ longer, tree.LeadsUp key longer → way <+: longer → longer = way) ∧
      (key ∈ tree.keys → (tree.ancestors key).length < tree.size) ∧
      (key ∉ tree.keys → tree.ancestors key = []) := by
  refine ⟨fun way => leadsUp_iff, fun way => ⟨?maximal, ?unique⟩, leadsUp_ancestors.length_lt,
    leadsUp_ancestors.eq_nil_of_not_mem⟩
  case maximal =>
    rintro rfl
    refine ⟨leadsUp_ancestors, fun longer leads begins => ?_⟩
    exact (leadsUp_iff.mp leads).eq_of_length_le begins.length_le
  case unique =>
    rintro ⟨leads, maximal⟩
    exact (maximal _ leadsUp_ancestors (leadsUp_iff.mp leads)).symm

/-- From the tail one way leads into the circle and once around it, from the circle only to its other key,
and the item that is its own parent has no ancestors. -/
theorem ancestors_exact_tangled :
    tangled.LeadsUp ⟨6⟩ [⟨3⟩, ⟨5⟩] ∧ tangled.LeadsUp .zero [⟨5⟩, ⟨3⟩] ∧
      (∀ way, tangled.LeadsUp ⟨3⟩ way → way <+: [⟨5⟩]) ∧ (∀ way, tangled.LeadsUp ⟨4⟩ way → way = []) ∧
      tangled.ancestors ⟨7⟩ = [] := by
  have ways (key : ItemId) := (ancestors_exact tangled key).1
  have tail : tangled.ancestors ⟨6⟩ = [⟨3⟩, ⟨5⟩] := by decide +kernel
  have zero : tangled.ancestors .zero = [⟨5⟩, ⟨3⟩] := by decide +kernel
  have circle : tangled.ancestors ⟨3⟩ = [⟨5⟩] := by decide +kernel
  have own : tangled.ancestors ⟨4⟩ = [] := by decide +kernel
  refine ⟨(ways _ _).mpr (tail ▸ List.prefix_refl _), (ways _ _).mpr (zero ▸ List.prefix_refl _), ?_, ?_, ?_⟩
  · exact fun way leads => circle ▸ (ways _ way).mp leads
  · exact fun way leads => List.prefix_nil.mp (own ▸ (ways _ way).mp leads)
  · exact (ancestors_exact tangled ⟨7⟩).2.2.2 (by decide)

end Tree

end ProblemBoard.Navigation
