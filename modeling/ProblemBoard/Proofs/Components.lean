import ProblemBoard.Proofs.Nesting

/-! # Nested maps in one pass over components

The nested maps of all maps can be worked out in a single pass over the strongly connected
components of the embeddings, sinks first. All members of a component get one set, made of the maps
that they embed directly and of what the pass has found out about those. Nothing is known yet of
the other members of the component itself, and nothing need be: whatever they lead to is added
directly or lies in a component before.

The pass and the search that `Atlas.ofMaps` makes from every map give the same sets.
-/

namespace ProblemBoard

open Relation

/-- Strongly connected components of a relation, each before those that lead to it. -/
structure SinksFirst {α : Type*} (step : α → α → Prop) (components : List (List α)) : Prop where
  nodup : components.flatten.Nodup
  covers : ∀ before after, step before after →
    before ∈ components.flatten ∧ after ∈ components.flatten
  connected : ∀ component ∈ components, ∀ before ∈ component, ∀ after ∈ component,
    ReflTransGen step before after
  ordered : components.Pairwise fun earlier later =>
    ∀ before ∈ earlier, ∀ after ∈ later, ¬ step before after

/-- What a member of a component leads to lies in the component or before it. -/
theorem SinksFirst.mem_of_step {α : Type*} {step : α → α → Prop} {prior rest : List (List α)}
    {component : List α} (sinks : SinksFirst step (prior ++ component :: rest)) {before after : α}
    (member : before ∈ component) (next : step before after) :
    after ∈ prior.flatten ∨ after ∈ component := by
  have parts := List.pairwise_cons.mp (List.pairwise_append.mp sinks.ordered).2.1
  have covered := (sinks.covers before after next).2
  rw [List.flatten_append, List.flatten_cons, List.mem_append, List.mem_append] at covered
  rcases covered with earlier | here | later
  · exact .inl earlier
  · exact .inr here
  · obtain ⟨other, present, there⟩ := List.mem_flatten.mp later
    exact absurd next (parts.1 other present before member after there)

namespace Embeddings

/-- The nested maps of the members of a component, given those of the components before it. -/
def settled (embeddings known : Embeddings) (component : List MapId) : IdSet .map :=
  (component.flatMap fun id => (embeddings.of id).toList).foldl
    (fun nested inner => nested.insert inner ∪ known.of inner) ∅

/-- Make the nested maps of one more component known. -/
def settle (embeddings known : Embeddings) (component : List MapId) : Embeddings :=
  component.foldl (fun table id => table.insert id (embeddings.settled known component)) known

/-- The nested maps of all members of some components, worked out from the first to the last. -/
def onePass (embeddings : Embeddings) (components : List (List MapId)) : Embeddings :=
  components.foldl embeddings.settle ∅

variable {embeddings known : Embeddings}

theorem mem_settled {component : List MapId} {inner : MapId} :
    inner ∈ embeddings.settled known component ↔
      ∃ outer ∈ component, ∃ next ∈ embeddings.of outer, inner = next ∨ inner ∈ known.of next := by
  rw [settled, mem_foldl_insert_union]
  simp only [Std.ExtTreeSet.not_mem_empty, List.mem_flatMap, Std.ExtTreeSet.mem_toList, false_or]
  constructor
  · rintro ⟨next, ⟨outer, here, step⟩, reached⟩
    exact ⟨outer, here, next, step, reached⟩
  · rintro ⟨outer, here, next, step, reached⟩
    exact ⟨next, ⟨outer, here, step⟩, reached⟩

theorem of_settle {component : List MapId} {id : MapId} :
    (embeddings.settle known component).of id =
      if id ∈ component then embeddings.settled known component else known.of id := by
  have from_any (nested : IdSet .map) (ids : List MapId) (table : Embeddings) :
      (ids.foldl (fun table id => table.insert id nested) table).of id =
        if id ∈ ids then nested else table.of id := by
    induction ids generalizing table with
    | nil => simp
    | cons first rest ih =>
      rw [List.foldl_cons, ih, of_insert]
      by_cases later : id ∈ rest
      · simp [later]
      · simp [later, eq_comm]
  exact from_any _ component known

/-- The pass is done with some components when it knows everything that their members lead to, and
nothing of any other map. -/
def KnowsOnly (embeddings known : Embeddings) (done : List MapId) : Prop :=
  ∀ id inner, inner ∈ known.of id ↔
    id ∈ done ∧ TransGen (fun outer inner => inner ∈ embeddings.of outer) id inner

/-- The members of a component lead to what is settled for it. -/
theorem mem_settled_iff_transGen {prior rest : List (List MapId)} {component : List MapId}
    (sinks : SinksFirst (fun outer inner => inner ∈ embeddings.of outer) (prior ++ component :: rest))
    (knows : embeddings.KnowsOnly known prior.flatten) {id inner : MapId} (member : id ∈ component) :
    inner ∈ embeddings.settled known component ↔
      TransGen (fun outer inner => inner ∈ embeddings.of outer) id inner := by
  have present : component ∈ prior ++ component :: rest := by simp
  rw [mem_settled]
  constructor
  · rintro ⟨outer, here, next, step, reached⟩
    have first := sinks.connected component present id member outer here
    rcases reached with rfl | reached
    · exact TransGen.tail' first step
    · exact TransGen.trans_right first (.head step ((knows next inner).mp reached).2)
  · intro way
    -- The way leaves the component once, and what it meets from there on is known.
    induction way with
    | single step => exact ⟨id, member, _, step, .inl rfl⟩
    | @tail middle inner _ step ih =>
      obtain ⟨outer, here, next, out, reached⟩ := ih
      rcases reached with rfl | reached
      · rcases sinks.mem_of_step here out with earlier | still
        · exact ⟨outer, here, middle, out, .inr ((knows middle inner).mpr ⟨earlier, .single step⟩)⟩
        · exact ⟨middle, still, inner, step, .inl rfl⟩
      · obtain ⟨earlier, onward⟩ := (knows next middle).mp reached
        exact ⟨outer, here, next, out, .inr ((knows next inner).mpr ⟨earlier, onward.tail step⟩)⟩

theorem KnowsOnly.settle {prior rest : List (List MapId)} {component : List MapId}
    (sinks : SinksFirst (fun outer inner => inner ∈ embeddings.of outer) (prior ++ component :: rest))
    (knows : embeddings.KnowsOnly known prior.flatten) :
    embeddings.KnowsOnly (embeddings.settle known component) (prior ++ [component]).flatten := by
  intro id inner
  rw [of_settle, List.flatten_append, List.mem_append, List.flatten_singleton]
  split
  · next member =>
    rw [mem_settled_iff_transGen sinks knows member]
    simp [member]
  · next absent =>
    rw [knows id inner]
    simp [absent]

/-- One pass over the components finds everything that the embeddings lead to. -/
theorem mem_onePass_iff_transGen {components : List (List MapId)}
    (sinks : SinksFirst (fun outer inner => inner ∈ embeddings.of outer) components) {id inner : MapId} :
    inner ∈ (embeddings.onePass components).of id ↔
      TransGen (fun outer inner => inner ∈ embeddings.of outer) id inner := by
  have along (prior rest : List (List MapId)) (known : Embeddings) (split : prior ++ rest = components)
      (knows : embeddings.KnowsOnly known prior.flatten) :
      embeddings.KnowsOnly (rest.foldl embeddings.settle known) components.flatten := by
    induction rest generalizing prior known with
    | nil =>
      rw [List.append_nil] at split
      exact split ▸ knows
    | cons component rest ih =>
      exact ih (prior ++ [component]) _ (by simpa using split) (knows.settle (split ▸ sinks))
  have nothing_known : embeddings.KnowsOnly ∅ [].flatten := by
    intro id inner
    simp [of]
  rw [onePass, along [] components ∅ rfl nothing_known id inner, and_iff_right_iff_imp]
  intro way
  obtain ⟨next, step, _⟩ := TransGen.head'_iff.mp way
  exact (sinks.covers id next step).1

end Embeddings

namespace Atlas

/-- The nested maps of every filed map are those that readable embeddings lead to from its key,
whether they are filed or not. Maps that lead to each other have the same nested maps, those that the
maps brought along make no difference, and one pass over components finds the same. -/
theorem ofMaps_submaps_exact (roots missing : IdSet .map) (maps : MapTable) :
    (∀ key : MapId, (ofMaps roots maps missing).maps[key]? =
      (maps[key]?).map fun map : NetworkMap =>
        { map with submaps := (ofMaps roots maps missing).submaps key }) ∧
    (∀ key ∈ maps, ∀ inner, inner ∈ (ofMaps roots maps missing).submaps key ↔
      TransGen (EmbedsReadably maps.values) key inner) ∧
    (∀ key ∈ maps, ∀ other ∈ maps, TransGen (EmbedsReadably maps.values) key other →
      TransGen (EmbedsReadably maps.values) other key →
        (ofMaps roots maps missing).submaps key = (ofMaps roots maps missing).submaps other) ∧
    (∀ brought : MapId → IdSet .map,
      ofMaps roots (maps.map fun key map => { map with submaps := brought key }) missing =
        ofMaps roots maps missing) ∧
    (∀ components, SinksFirst (EmbedsReadably maps.values) components → ∀ key ∈ maps,
      ((Embeddings.ofMaps maps.values).onePass components).of key =
        (ofMaps roots maps missing).submaps key) := by
  refine ⟨fun key => ?_, fun key filed inner => mem_submaps_ofMaps filed, ?_, ?_, ?_⟩
  · cases found : maps[key]? with
    | none => simp [ofMaps, getElem?_close, found]
    | some map =>
      have filed : key ∈ maps := mem_iff_exists_getElem?.mpr ⟨map, found⟩
      rw [submaps_ofMaps filed]
      simp [ofMaps, getElem?_close, found]
  · intro key filed other otherFiled there back
    ext inner
    rw [mem_submaps_ofMaps filed, mem_submaps_ofMaps otherFiled]
    exact ⟨back.trans, there.trans⟩
  · intro brought
    rw [ofMaps, ofMaps, close_bringing]
  · intro components sinks key filed
    have steps : EmbedsReadably maps.values =
        fun outer inner => inner ∈ (Embeddings.ofMaps maps.values).of outer := by
      funext outer inner
      exact propext Embeddings.mem_of_ofMaps.symm
    ext inner
    rw [mem_submaps_ofMaps filed, steps, Embeddings.mem_onePass_iff_transGen (steps ▸ sinks)]

/-- Maps 1 and 2 embed each other, map 3 is missing, and another map 1 is filed under 9. -/
def entangled : MapTable :=
  (((∅ : MapTable).insert ⟨1⟩ (.embedding ⟨1⟩ .read [⟨2⟩])).insert ⟨2⟩
    (.embedding ⟨2⟩ .read [⟨1⟩, ⟨3⟩])).insert ⟨9⟩ (.embedding ⟨1⟩ .read [⟨4⟩])

theorem embedsReadably_entangled {outer inner : MapId} :
    EmbedsReadably entangled.values outer inner ↔
      outer = ⟨1⟩ ∧ (inner = ⟨2⟩ ∨ inner = ⟨4⟩) ∨ outer = ⟨2⟩ ∧ (inner = ⟨1⟩ ∨ inner = ⟨3⟩) := by
  have listed : entangled.values =
      [.embedding ⟨1⟩ .read [⟨2⟩], .embedding ⟨2⟩ .read [⟨1⟩, ⟨3⟩], .embedding ⟨1⟩ .read [⟨4⟩]] := by
    decide +kernel
  simp only [EmbedsReadably, listed, NetworkMap.mem_readableEmbedded]
  simp [NetworkMap.embedding, Element.submap?, Permission.isReadable, Ident.zero]
  grind

theorem sinksFirst_entangled :
    SinksFirst (EmbedsReadably entangled.values) [[⟨3⟩], [⟨4⟩], [⟨1⟩, ⟨2⟩]] where
  nodup := by decide
  covers := by
    intro outer inner step
    rcases embedsReadably_entangled.mp step with ⟨rfl, rfl | rfl⟩ | ⟨rfl, rfl | rfl⟩ <;> decide
  connected := by
    have there : EmbedsReadably entangled.values ⟨1⟩ ⟨2⟩ := embedsReadably_entangled.mpr (by decide)
    have back : EmbedsReadably entangled.values ⟨2⟩ ⟨1⟩ := embedsReadably_entangled.mpr (by decide)
    simp [ReflTransGen.refl, ReflTransGen.single there, ReflTransGen.single back]
  ordered := by
    simp [embedsReadably_entangled]

/-- The circle of maps 1 and 2 leads to itself, to the missing map 3 and to map 4, and the map filed
under 9 leads nowhere. -/
theorem ofMaps_submaps_entangled :
    SinksFirst (EmbedsReadably entangled.values) [[⟨3⟩], [⟨4⟩], [⟨1⟩, ⟨2⟩]] ∧
      ((Embeddings.ofMaps entangled.values).onePass [[⟨3⟩], [⟨4⟩], [⟨1⟩, ⟨2⟩]]).of ⟨2⟩ =
        (ofMaps ∅ entangled ∅).submaps ⟨2⟩ ∧
      (ofMaps ∅ entangled ∅).submaps ⟨1⟩ = (ofMaps ∅ entangled ∅).submaps ⟨2⟩ ∧
      ((ofMaps ∅ entangled ∅).submaps ⟨2⟩).toList = [⟨1⟩, ⟨2⟩, ⟨3⟩, ⟨4⟩] ∧
      (⟨3⟩ ∈ (ofMaps ∅ entangled ∅).submaps ⟨9⟩ ↔ TransGen (EmbedsReadably entangled.values) ⟨9⟩ ⟨3⟩) := by
  obtain ⟨_, reached, shared, _, passed⟩ := ofMaps_submaps_exact ∅ ∅ entangled
  have there : EmbedsReadably entangled.values ⟨1⟩ ⟨2⟩ := embedsReadably_entangled.mpr (by decide)
  have back : EmbedsReadably entangled.values ⟨2⟩ ⟨1⟩ := embedsReadably_entangled.mpr (by decide)
  exact ⟨sinksFirst_entangled, passed _ sinksFirst_entangled ⟨2⟩ (by decide +kernel),
    shared ⟨1⟩ (by decide +kernel) ⟨2⟩ (by decide +kernel) (.single there) (.single back),
    by decide +kernel, reached ⟨9⟩ (by decide +kernel) ⟨3⟩⟩

end Atlas

end ProblemBoard
