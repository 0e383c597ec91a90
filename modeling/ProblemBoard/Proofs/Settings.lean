import ProblemBoard.Proofs.Histories
import ProblemBoard.Proofs.Profiles

/-! # What users have set is what they set last

All users' settings stand in one table of texts under names. A name is made for each item, and the item is
read back from it; no such name is that of the selected item. So whatever calls users have made, for
whatever widgets and items, the entries of the table say for each user and widget which items were opened
and not closed since, and which item was selected last.
-/

namespace ProblemBoard

/-- A call that changes what a user has set. -/
inductive Setting where
  | opened (user widget : Int) (item : ItemId) (isOpen : Bool)
  | selected (user widget : Int) (item : ItemId)
  deriving DecidableEq, Repr

namespace Setting

def change : Setting → Change
  | opened user widget item isOpen => .setOpened user widget item isOpen
  | selected user widget item => .setSelected user widget item

/-- The entries after a call. -/
def apply (profile : Profile) : Setting → Profile
  | opened user widget item isOpen => profile.setOpened user widget item isOpen
  | selected user widget item => profile.setSelected user widget item

/-- Whether a call opens or closes an item of a user's widget, if it does either. -/
def opens? (user widget : Int) (item : ItemId) : Setting → Option Bool
  | opened other place thing isOpen =>
      if other = user ∧ place = widget ∧ thing = item then some isOpen else none
  | selected .. => none

/-- The item that a call selects in a user's widget. -/
def selects? (user widget : Int) : Setting → Option ItemId
  | opened .. => none
  | selected other place item => if other = user ∧ place = widget then some item else none

/-- What the last of some calls tells that tells anything. -/
def last? {α : Type} (tells : Setting → Option α) (settings : List Setting) : Option α :=
  (settings.filterMap tells).getLast?

theorem last?_concat {α : Type} (tells : Setting → Option α) (settings : List Setting) (setting : Setting) :
    last? tells (settings ++ [setting]) = (tells setting).or (last? tells settings) := by
  cases told : tells setting <;> simp [last?, told]

end Setting

namespace Profile

section Names

/-- The item is read back from the name that is made for it. -/
@[simp] theorem itemOfName?_toggleName (item : ItemId) : itemOfName? (toggleName item) = some item := by
  have front : Text.dropFront? toggleFront.toList (toggleName item).toList =
      some ((Decimal.natText item.toNat).toList ++ toggleBack.toList) := by
    simp [Text.dropFront?_eq_some_iff, toggleName]
  have back : Text.dropBack? toggleBack.toList ((Decimal.natText item.toNat).toList ++ toggleBack.toList) =
      some (Decimal.natText item.toNat).toList := by
    simp [Text.dropBack?_eq_some_iff]
  have number : Text.natural? (Decimal.natText item.toNat).toList = some item.val :=
    Text.natural?_natText item.val
  simp only [itemOfName?, front, back, number, Option.bind_eq_bind, Option.bind_some]
  rfl

theorem toggleName_inj {item other : ItemId} : toggleName item = toggleName other ↔ item = other := by
  refine ⟨fun same => ?_, congrArg _⟩
  rw [← Option.some_inj, ← itemOfName?_toggleName, same, itemOfName?_toggleName]

theorem itemOfName?_selectedName : itemOfName? selectedName = none := by
  decide +kernel

/-- No item's entry has the name of the entry for the selected item. -/
theorem toggleName_ne_selectedName (item : ItemId) : toggleName item ≠ selectedName := by
  intro same
  have found := itemOfName?_toggleName item
  rw [same, itemOfName?_selectedName] at found
  cases found

end Names

section Entries

variable {profile : Profile} {user widget : Int} {name : String}

theorem get?_set (other place : Int) (title text : String) :
    (profile.set other place title text).get? user widget name =
      if other = user ∧ place = widget ∧ title = name then some text else profile.get? user widget name := by
  simp [get?, set, Std.ExtTreeMap.getElem?_insert]

theorem get?_delete (other place : Int) (title : String) :
    (profile.delete other place title).get? user widget name =
      if other = user ∧ place = widget ∧ title = name then none else profile.get? user widget name := by
  simp [get?, delete, Std.ExtTreeMap.getElem?_erase]

/-- A name is found if there is an entry under it and it begins and ends as it should. -/
theorem mem_find {front back : String} : name ∈ profile.find user widget front back ↔
    (∃ text, profile.get? user widget name = some text) ∧ front.toList <+: name.toList ∧
      back.toList <:+ name.toList := by
  simp only [find, List.mem_map, List.mem_filter, Std.ExtTreeMap.mem_keys, Bool.and_eq_true, beq_iff_eq,
    List.isPrefixOf_iff_prefix, List.isSuffixOf_iff_suffix, mem_iff_exists_getElem?]
  constructor
  · rintro ⟨⟨_, _, _⟩, ⟨found, ⟨⟨rfl, rfl⟩, begins⟩, ends⟩, rfl⟩
    exact ⟨found, begins, ends⟩
  · rintro ⟨found, begins, ends⟩
    exact ⟨⟨user, widget, name⟩, ⟨found, ⟨⟨rfl, rfl⟩, begins⟩, ends⟩, rfl⟩

theorem nodup_find {front back : String} : (profile.find user widget front back).Nodup := by
  rw [find, List.Nodup, List.pairwise_map]
  have distinct : profile.keys.Nodup := Std.ExtTreeMap.nodup_keys
  refine (distinct.filter _).imp_of_mem fun {here there} mine yours differ same => differ ?_
  simp only [List.mem_filter, Bool.and_eq_true, beq_iff_eq] at mine yours
  obtain ⟨_, ⟨⟨user_eq, widget_eq⟩, _⟩, _⟩ := mine
  obtain ⟨_, ⟨⟨other_eq, place_eq⟩, _⟩, _⟩ := yours
  cases here
  cases there
  simp_all

end Entries

/-- The entries are what some calls have left behind: one for each item that was opened and not closed since,
one for each selected item, and no others. -/
structure Records (profile : Profile) (settings : List Setting) : Prop where
  items : ∀ user widget item, profile.get? user widget (toggleName item) =
    if Setting.last? (·.opens? user widget item) settings = some true then some "1" else none
  selection : ∀ user widget, profile.get? user widget selectedName =
    (Setting.last? (·.selects? user widget) settings).map fun item => Decimal.natText item.toNat
  named : ∀ user widget name text, profile.get? user widget name = some text →
    name = selectedName ∨ ∃ item, name = toggleName item

namespace Records

variable {profile : Profile} {settings : List Setting}

theorem empty : Records ∅ [] where
  items _ _ _ := by simp [get?, Setting.last?]
  selection _ _ := by simp [get?, Setting.last?]
  named _ _ _ _ found := by simp [get?] at found

/-- A call leaves behind what it should. -/
theorem apply (records : Records profile settings) (setting : Setting) :
    Records (setting.apply profile) (settings ++ [setting]) := by
  cases setting with
  | opened other place thing isOpen =>
    have entry (user widget : Int) (name : String) :
        ((Setting.opened other place thing isOpen).apply profile).get? user widget name =
          if other = user ∧ place = widget ∧ toggleName thing = name then
            if isOpen then some "1" else none
          else profile.get? user widget name := by
      cases isOpen
      · exact get?_delete ..
      · exact get?_set ..
    constructor
    case items =>
      intro user widget item
      simp only [entry, Setting.last?_concat, Setting.opens?, toggleName_inj]
      split
      · simp
      · exact records.items user widget item
    case selection =>
      intro user widget
      rw [entry, Setting.last?_concat, Setting.selects?,
        if_neg fun same => toggleName_ne_selectedName thing same.2.2]
      exact records.selection user widget
    case named =>
      intro user widget name text found
      rw [entry] at found
      split at found
      · next same => exact .inr ⟨thing, same.2.2.symm⟩
      · exact records.named user widget name text found
  | selected other place chosen =>
    have entry (user widget : Int) (name : String) :
        ((Setting.selected other place chosen).apply profile).get? user widget name =
          if other = user ∧ place = widget ∧ selectedName = name then some (Decimal.natText chosen.toNat)
          else profile.get? user widget name := get?_set ..
    constructor
    case items =>
      intro user widget item
      rw [entry, Setting.last?_concat, Setting.opens?,
        if_neg fun same => toggleName_ne_selectedName item same.2.2.symm]
      exact records.items user widget item
    case selection =>
      intro user widget
      rw [entry, Setting.last?_concat, Setting.selects?]
      by_cases same : other = user ∧ place = widget
      · simp [same]
      · rw [if_neg fun all => same ⟨all.1, all.2.1⟩, if_neg same]
        exact records.selection user widget
    case named =>
      intro user widget name text found
      rw [entry] at found
      split at found
      · next same => exact .inl same.2.2.symm
      · exact records.named user widget name text found

/-- What calls made one after the other leave behind. -/
theorem foldl_apply (records : Records profile settings) (later : List Setting) :
    Records (later.foldl Setting.apply profile) (settings ++ later) := by
  induction later generalizing profile settings with
  | nil => simpa using records
  | cons setting rest ih => simpa using ih (records.apply setting)

/-- Only the name that is made for an item is found and read as that item. -/
theorem eq_toggleName (records : Records profile settings) {user widget : Int} {front back name : String}
    {item : ItemId} (member : name ∈ profile.find user widget front back) (read : itemOfName? name = some item) :
    name = toggleName item := by
  obtain ⟨⟨text, found⟩, _⟩ := mem_find.mp member
  rcases records.named user widget name text found with rfl | ⟨other, rfl⟩
  · rw [itemOfName?_selectedName] at read
    cases read
  · rw [itemOfName?_toggleName] at read
    rw [Option.some.inj read]

/-- The opened items are those that were opened and not closed since. -/
theorem mem_opened (records : Records profile settings) {user widget : Int} {item : ItemId} :
    item ∈ profile.opened user widget ↔ Setting.last? (·.opens? user widget item) settings = some true := by
  rw [opened, ProfileStore.opened, List.mem_mergeSort, List.mem_filterMap]
  constructor
  · rintro ⟨name, member, read⟩
    obtain rfl := records.eq_toggleName member read
    obtain ⟨⟨text, found⟩, _⟩ := mem_find.mp member
    by_contra closed
    rw [records.items, if_neg closed] at found
    cases found
  · intro opened
    have kept : profile.get? user widget (toggleName item) = some "1" := by
      rw [records.items, if_pos opened]
    have begins : toggleFront.toList <+: (toggleName item).toList := by simp [toggleName]
    have ends : toggleBack.toList <:+ (toggleName item).toList := by
      rw [toggleName, String.toList_append]
      exact List.suffix_append ..
    exact ⟨toggleName item, mem_find.mpr ⟨⟨"1", kept⟩, begins, ends⟩, itemOfName?_toggleName item⟩

/-- The opened items are listed once each, in ascending order. -/
theorem opened_ascending (records : Records profile settings) (user widget : Int) :
    (profile.opened user widget).Pairwise fun left right => left.toNat < right.toNat := by
  have distinct : (profile.opened user widget).Nodup := by
    rw [opened, ProfileStore.opened, (List.mergeSort_perm _ _).nodup_iff, List.Nodup, List.pairwise_filterMap]
    refine nodup_find.imp_of_mem fun mine yours differ item read other also same => differ ?_
    rw [records.eq_toggleName mine read, records.eq_toggleName yours also, same]
  have ordered (left right : ItemId) : (compare left right).isLE = true ↔ left.toNat ≤ right.toNat := by
    rw [Ident.compare_def, Std.isLE_compare]
    exact UInt64.le_iff_toNat_le
  have sorted : (profile.opened user widget).Pairwise fun left right => left.toNat ≤ right.toNat := by
    refine (List.pairwise_mergeSort ?transitive ?total _).imp fun below => (ordered _ _).mp below
    case transitive =>
      intro _ _ _ below after
      rw [ordered] at below after ⊢
      exact below.trans after
    case total =>
      intro left right
      rw [Bool.or_eq_true, ordered, ordered]
      exact le_total _ _
  exact (sorted.and distinct).imp fun both =>
    lt_of_le_of_ne both.1 fun same => both.2 (Ident.toNat_inj.mp same)

/-- As texts, the names of nine and ten stand the other way round. -/
example : toggleName ⟨10⟩ < toggleName ⟨9⟩ := by decide +kernel

theorem selected_eq (records : Records profile settings) (user widget : Int) :
    profile.selected user widget = (Setting.last? (·.selects? user widget) settings).getD .zero := by
  have kept : ProfileStore.get? profile user widget selectedName = _ := records.selection user widget
  rw [selected, ProfileStore.selected, kept]
  cases Setting.last? (·.selects? user widget) settings with
  | none => rfl
  | some item => simp [Ident.toNat]

end Records

end Profile

section Stores

variable {σ : Type} [Store σ] {profile : σ → Profile} (keeps : ProfileStore.KeepsIn profile)
  (load : Snapshot → σ → Except StoreFault LoadSummary × σ)

include keeps

theorem perform_setting (setting : Setting) (store : σ) : ∃ after,
    (Operation.change setting.change).perform load store = (.ok .done, after) ∧
      profile after = setting.apply (profile store) := by
  cases setting with
  | opened user widget item isOpen => exact ⟨_, rfl, keeps.profile_setOpened store user widget item isOpen⟩
  | selected user widget item => exact ⟨_, rfl, keeps.profile_setSelected store user widget item⟩

/-- A store goes through the settings as its profile alone does. -/
theorem profile_performAll (settings : List Setting) (store : σ) :
    (performAll load (settings.map (.change ·.change)) store).1 = settings.map (fun _ => .ok .done) ∧
      profile (performAll load (settings.map (.change ·.change)) store).2 =
        settings.foldl Setting.apply (profile store) := by
  induction settings generalizing store with
  | nil => exact ⟨rfl, rfl⟩
  | cons setting rest ih =>
    obtain ⟨after, performed, kept⟩ := perform_setting keeps load setting store
    obtain ⟨done, last⟩ := ih after
    simp only [List.map_cons, performAll, performed, done, last, kept, List.foldl_cons, and_self]

end Stores

/-- Whatever users have opened, closed and selected, one after the other and each in widgets of their own: the
opened items of a user's widget are those whose last call opened them, listed once each in the order of their
numbers, and the selected item is that of the last call, or else the root. This holds of either kind of
store. -/
theorem settings_exact (settings : List Setting) (user widget : Int) :
    ∃ items : List ItemId, items.Pairwise (fun left right => left.toNat < right.toNat) ∧
      (∀ item, item ∈ items ↔ Setting.last? (·.opens? user widget item) settings = some true) ∧
      let calls := settings.map fun setting => Operation.change setting.change
      let selected := (Setting.last? (·.selects? user widget) settings).getD .zero
      let memory := performAll Snapshot.load calls (Store.empty : Memory)
      let database := performAll Database.take calls (Store.empty : Database)
      memory.1 = settings.map (fun _ => .ok .done) ∧
      (Question.opened user widget).answer memory.2 = .ok (.items items) ∧
      (Question.selected user widget).answer memory.2 = .ok (.item selected) ∧
      database.1 = settings.map (fun _ => .ok .done) ∧
      (Question.opened user widget).answer database.2 = .ok (.items items) ∧
      (Question.selected user widget).answer database.2 = .ok (.item selected) := by
  have records : (settings.foldl Setting.apply ∅).Records settings := Profile.Records.empty.foldl_apply settings
  obtain ⟨memoryDone, inMemory⟩ := profile_performAll Memory.keepsIn_profile Snapshot.load settings Store.empty
  obtain ⟨databaseDone, inDatabase⟩ := profile_performAll Database.keepsIn_profile Database.take settings Store.empty
  refine ⟨_, records.opened_ascending user widget, fun item => records.mem_opened, memoryDone, ?_, ?_,
    databaseDone, ?_, ?_⟩
  · rw [Question.answer, Memory.keepsIn_profile.opened_eq, inMemory]
    rfl
  · rw [Question.answer, Memory.keepsIn_profile.selected_eq, inMemory, ← records.selected_eq]
    rfl
  · rw [Question.answer, Database.keepsIn_profile.opened_eq, inDatabase]
    rfl
  · rw [Question.answer, Database.keepsIn_profile.selected_eq, inDatabase, ← records.selected_eq]
    rfl

end ProblemBoard
