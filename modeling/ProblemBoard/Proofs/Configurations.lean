import ProblemBoard.Proofs.Mirroring
import ProblemBoard.Proofs.Models

/-! # Configurations miss no level

A style is looked up without asking whether there is one. That goes well only if every way to come by a
configuration fills in the levels that are not given. Here the ways are followed through twice more: on sheets,
which may miss levels, and on plain lists of the styles that were given. The three handle one sequence of
steps alike, so no sheet ever misses a level, and a configuration shows for each level the style that was
given last.
-/

namespace ProblemBoard

namespace Levels

variable {α : Type} {entries : List (Severity × α)}

/-- The last value that some entries give for a severity, if they give any. -/
def last? (severity : Severity) (entries : List (Severity × α)) : Option α :=
  (entries.filterMap fun entry => if entry.1 = severity then some entry.2 else none).getLast?

theorem last?_concat (severity : Severity) (entry : Severity × α) :
    last? severity (entries ++ [entry]) = if entry.1 = severity then some entry.2 else last? severity entries := by
  by_cases same : entry.1 = severity <;> simp [last?, same]

theorem get_setAll (levels : Levels α) (severity : Severity) :
    (levels.setAll entries).get severity = (last? severity entries).getD (levels.get severity) := by
  induction entries using List.reverseRecOn with
  | nil => rfl
  | append_singleton entries entry ih =>
    rw [setAll, List.foldl_concat, get_set, last?_concat]
    by_cases same : entry.1 = severity
    · simp [same]
    · rw [if_neg (Ne.symm same), if_neg same]
      exact ih

end Levels

/-- A table of styles in which levels may be missing. -/
abbrev Sheet := Levels (Option Style)

namespace Sheet

def blank : Sheet := .ofFn fun _ => none

def style? (sheet : Sheet) (severity : Severity) : Option Style := sheet.get severity

def write (sheet : Sheet) (severity : Severity) (style : Style) : Sheet := sheet.set severity (some style)

def writeAll (sheet : Sheet) (styles : List (Severity × Style)) : Sheet :=
  styles.foldl (fun sheet entry => sheet.write entry.1 entry.2) sheet

/-- The styles on a sheet, in ascending order of their severities. -/
def styles (sheet : Sheet) : List (Severity × Style) :=
  sheet.toList.filterMap fun entry => entry.2.map (entry.1, ·)

def default : Sheet := blank.writeAll SeverityConfig.default.toList

/-- The given styles over the defaults. -/
def ofStyles (styles : List (Severity × Style)) : Sheet := default.writeAll styles

/-- The sheet that has all styles of a configuration. -/
def full (config : SeverityConfig) : Sheet := .ofFn fun severity => some (config.get severity)

@[simp] theorem style?_full (config : SeverityConfig) (severity : Severity) :
    (full config).style? severity = some (config.get severity) := Levels.get_ofFn ..

theorem styles_full (config : SeverityConfig) : (full config).styles = config.toList := rfl

theorem default_eq_full : default = full .default := rfl

theorem write_full (config : SeverityConfig) (severity : Severity) (style : Style) :
    (full config).write severity style = full (config.set severity style) := by
  refine Levels.ext_get fun other => ?_
  rw [write, full, full, Levels.get_set, Levels.get_ofFn, Levels.get_ofFn, Levels.get_set]
  split <;> rfl

theorem writeAll_full (config : SeverityConfig) (styles : List (Severity × Style)) :
    (full config).writeAll styles = full (config.setAll styles) := by
  induction styles generalizing config with
  | nil => rfl
  | cons entry rest ih =>
    rw [writeAll, List.foldl_cons, write_full]
    exact ih _

theorem ofStyles_eq_full (styles : List (Severity × Style)) : ofStyles styles = full (.ofStyles styles) := by
  rw [ofStyles, default_eq_full, writeAll_full, SeverityConfig.ofStyles]

theorem style?_writeAll (sheet : Sheet) (styles : List (Severity × Style)) (severity : Severity) :
    (sheet.writeAll styles).style? severity = (Levels.last? severity styles).or (sheet.style? severity) := by
  induction styles using List.reverseRecOn with
  | nil => rfl
  | append_singleton styles entry ih =>
    rw [writeAll, List.foldl_concat, write, style?, Levels.get_set, Levels.last?_concat]
    by_cases same : entry.1 = severity
    · simp [same]
    · rw [if_neg (Ne.symm same), if_neg same]
      exact ih

/-- A sheet lists one style at most for a severity, which is then also the last. -/
theorem last?_styles (sheet : Sheet) (severity : Severity) :
    Levels.last? severity sheet.styles = sheet.style? severity := by
  have own : (sheet.styles.filterMap fun entry => if entry.1 = severity then some entry.2 else none) =
      Severity.all.filterMap fun other => if other = severity then sheet.get other else none := by
    rw [styles, Levels.toList, List.filterMap_map, List.filterMap_filterMap]
    refine List.filterMap_congr fun other _ => ?_
    cases listed : sheet.get other <;> simp [listed]
  rw [Levels.last?, own, style?]
  cases severity <;> cases listed : sheet.get _ <;> simp [Severity.all, listed]

/-- Collecting styles on a blank sheet first sorts them and drops all but the last of each severity, which makes
no difference to what they give over the defaults. -/
theorem ofStyles_collected (styles : List (Severity × Style)) :
    ofStyles (blank.writeAll styles).styles = full (.ofStyles styles) := by
  rw [ofStyles_eq_full]
  refine congrArg full (Levels.ext_get fun severity => ?_)
  rw [SeverityConfig.ofStyles, SeverityConfig.ofStyles, Levels.get_setAll, Levels.get_setAll, last?_styles,
    style?_writeAll, blank, style?, Levels.get_ofFn, Option.or_none]

end Sheet

/-- How configurations of some form are put into a store and taken out again. -/
structure Shelf (γ σ : Type) where
  put : σ → γ → Except StoreFault σ
  take : σ → Except StoreFault γ

/-- How configurations of some form are made, changed and stored. The form is one of three: configurations
themselves, sheets, and lists of what was given. -/
structure Handling (γ μ δ : Type) where
  default : γ
  ofStyles : List (Severity × Style) → γ
  read : String → Except ReadFault γ
  set : γ → Severity → Style → γ
  memory : Shelf γ μ
  database : Shelf γ δ

/-- The configuration at hand, and a store of each kind. -/
structure Desk (γ μ δ : Type) where
  hand : γ
  memory : μ
  database : δ

namespace Handling

inductive Place where
  | memory
  | database

/-- One thing that is done with the configuration at hand. -/
inductive Step where
  | default
  | ofStyles (styles : List (Severity × Style))
  | read (text : String)
  | set (severity : Severity) (style : Style)
  | keep (place : Place)
  | fetch (place : Place)

variable {γ μ δ γ' μ' δ' : Type}

def perform (handling : Handling γ μ δ) (desk : Desk γ μ δ) : Step → Except StoreFault (Desk γ μ δ)
  | .default => .ok { desk with hand := handling.default }
  | .ofStyles styles => .ok { desk with hand := handling.ofStyles styles }
  | .read text => ((handling.read text).mapError .unreadable).map fun config => { desk with hand := config }
  | .set severity style => .ok { desk with hand := handling.set desk.hand severity style }
  | .keep .memory => (handling.memory.put desk.memory desk.hand).map fun kept => { desk with memory := kept }
  | .keep .database => (handling.database.put desk.database desk.hand).map fun kept => { desk with database := kept }
  | .fetch .memory => (handling.memory.take desk.memory).map fun config => { desk with hand := config }
  | .fetch .database => (handling.database.take desk.database).map fun config => { desk with hand := config }

/-- Some steps, one after the other, up to the first that fails. -/
def run (handling : Handling γ μ δ) (steps : List Step) (desk : Desk γ μ δ) : Except StoreFault (Desk γ μ δ) :=
  steps.foldlM handling.perform desk

section Follows

variable (related : γ → γ' → Prop)

/-- What is taken out of two stores is related if what was put in is, whatever was in the stores before. -/
def ShelvesFollow {σ σ' : Type} (shelf : Shelf γ σ) (other : Shelf γ' σ') : Prop :=
  ∀ store twin config image, related config image →
    Agree (fun kept keptTwin => Agree related (shelf.take kept) (other.take keptTwin))
      (shelf.put store config) (other.put twin image)

/-- Two ways to handle configurations do the same, in two forms that are related. -/
structure Follows (handling : Handling γ μ δ) (other : Handling γ' μ' δ') : Prop where
  default : related handling.default other.default
  ofStyles : ∀ styles, related (handling.ofStyles styles) (other.ofStyles styles)
  read : ∀ text, Agree related (handling.read text) (other.read text)
  set : ∀ config image severity style, related config image →
    related (handling.set config severity style) (other.set image severity style)
  memory : ShelvesFollow related handling.memory other.memory
  database : ShelvesFollow related handling.database other.database

/-- The configurations at hand and those in the stores are related. -/
structure DesksFollow (handling : Handling γ μ δ) (other : Handling γ' μ' δ') (desk : Desk γ μ δ)
    (twin : Desk γ' μ' δ') : Prop where
  hand : related desk.hand twin.hand
  memory : Agree related (handling.memory.take desk.memory) (other.memory.take twin.memory)
  database : Agree related (handling.database.take desk.database) (other.database.take twin.database)

variable {related} {handling : Handling γ μ δ} {other : Handling γ' μ' δ'} {desk : Desk γ μ δ}
  {twin : Desk γ' μ' δ'}

/-- A step replaces one part of each desk, and the new parts are related again. -/
theorem Follows.perform (follows : Follows related handling other)
    (same : DesksFollow related handling other desk twin) (step : Step) :
    Agree (DesksFollow related handling other) (handling.perform desk step) (other.perform twin step) := by
  cases step with
  | default => exact .ok { same with hand := follows.default }
  | ofStyles styles => exact .ok { same with hand := follows.ofStyles styles }
  | read text => exact ((follows.read text).mapError _).map fun _ _ hand => { same with hand }
  | set severity style => exact .ok { same with hand := follows.set _ _ severity style same.hand }
  | keep place =>
    cases place with
    | memory => exact (follows.memory _ _ _ _ same.hand).map fun _ _ memory => { same with memory }
    | database => exact (follows.database _ _ _ _ same.hand).map fun _ _ database => { same with database }
  | fetch place =>
    cases place with
    | memory => exact same.memory.map fun _ _ hand => { same with hand }
    | database => exact same.database.map fun _ _ hand => { same with hand }

theorem Follows.run (follows : Follows related handling other)
    (same : DesksFollow related handling other desk twin) (steps : List Step) :
    Agree (DesksFollow related handling other) (handling.run steps desk) (other.run steps twin) :=
  Agree.foldlM (fun step _ _ _ same => follows.perform same step) same

end Follows

end Handling

namespace Decoder

open Json

variable {α β : Type}

theorem run_eq_ok_iff {decoder : Decoder α} {text : String} {value : α} :
    decoder.run text = .ok value ↔
      (Document.ofText text).complete = true ∧ decoder 0 (Document.ofText text).root = .ok value := by
  rw [run]
  cases decoder 0 (Document.ofText text).root with
  | error fault => simp [bind, Except.bind]
  | ok other =>
    cases (Document.ofText text).complete <;>
      simp [bind, Except.bind, pure, Except.pure, throw, throwThe, MonadExceptOf.throw]

/-- The members of a whole object are read, each its key and its value. -/
theorem entries_eq_ok_iff {readKey : Quoted → Except ReadFault α} {decoder : Decoder β} {depth : Nat} {node : Node}
    {values : List (α × β)} : entries readKey decoder depth node = .ok values ↔
      ∃ members, node = .object members true ∧
        List.Forall₂ (fun member entry => readKey member.1 = .ok entry.1 ∧ decoder (depth + 1) member.2 = .ok entry.2)
          members values := by
  let readMember (member : Quoted × Node) : Except ReadFault (α × β) := do
    let key ← readKey member.1
    let value ← decoder (depth + 1) member.2
    pure (key, value)
  have read (member : Quoted × Node) (entry : α × β) : readMember member = .ok entry ↔
      readKey member.1 = .ok entry.1 ∧ decoder (depth + 1) member.2 = .ok entry.2 := by
    simp only [readMember]
    cases readKey member.1 <;> cases decoder (depth + 1) member.2 <;>
      simp [bind, Except.bind, pure, Except.pure, Prod.ext_iff]
  constructor
  · intro success
    cases node with
    | object members closed =>
      change (members.mapM readMember >>= _) = _ at success
      obtain ⟨others, given, success⟩ := exists_ok_of_bind success
      cases closed with
      | false => cases success
      | true =>
        obtain rfl : others = values := Except.ok.inj success
        exact ⟨members, rfl, (forall₂_of_mapM given).imp fun member entry => (read member entry).mp⟩
    | _ => cases success
  · rintro ⟨members, rfl, each⟩
    have given : members.mapM readMember = .ok values :=
      mapM_of_forall₂ (each.imp fun member entry => (read member entry).mpr)
    change (members.mapM readMember >>= _) = _
    rw [given]
    rfl

end Decoder

namespace SeverityConfig

open Handling Decimal

/-- Styles that are given, in the order in which they are. -/
abbrev Given := List (Severity × Style)

theorem ofStyles_concat (given : Given) (entry : Severity × Style) :
    ofStyles (given ++ [entry]) = (ofStyles given).set entry.1 entry.2 := List.foldl_concat ..

/-- The styles that the members of a JSON object give, in the order of the text. -/
def givenDecoder : Decoder Given := .entries Decoder.severityKey Style.fields.decoder

/-- The text is a JSON object whose members, in their order, give some styles. -/
def Gives (text : String) (given : Given) : Prop :=
  ∃ members, Json.Document.ofText text = ⟨.object members true, true⟩ ∧
    List.Forall₂ (fun member entry => Decoder.severityKey member.1 = .ok entry.1 ∧
      Style.fields.decoder 1 member.2 = .ok entry.2) members given

theorem givenDecoder_run_eq_ok_iff {text : String} {given : Given} :
    givenDecoder.run text = .ok given ↔ Gives text given := by
  rw [Decoder.run_eq_ok_iff, givenDecoder, Decoder.entries_eq_ok_iff, Gives]
  generalize Json.Document.ofText text = document
  obtain ⟨root, complete⟩ := document
  simp only [Json.Document.mk.injEq]
  constructor
  · rintro ⟨whole, members, object, each⟩
    exact ⟨members, ⟨object, whole⟩, each⟩
  · rintro ⟨members, ⟨object, whole⟩, each⟩
    exact ⟨whole, members, object, each⟩

/-- The JSON object that gives some styles, each in a member of its own. -/
def listing (given : Given) : Json :=
  .object (given.map fun entry => (natText entry.1.level, entry.2.toJson))

/-- Any styles can be given in a text: for any levels, in any order, and several for one level. -/
theorem gives_listing (given : Given) : Gives (listing given).compact given := by
  have whole : (listing given).Whole := by
    rw [listing, Json.whole_object, List.forall_mem_map]
    exact fun entry _ => by simp [Style.toJson]
  rw [← givenDecoder_run_eq_ok_iff, Decoder.run_compact _ whole]
  exact Decoder.entries_toNode (fun severity : Severity => natText severity.level) Style.toJson
    (fun entry _ => Decoder.severityKey_natText entry.1) fun entry _ => style_toNode 1 entry.2

theorem decoder_run (text : String) : decoder.run text = (givenDecoder.run text).map ofStyles := by
  simp only [decoder, Decoder.levels, Decoder.run, Decoder.map]
  rw [← givenDecoder]
  cases givenDecoder 0 (Json.Document.ofText text).root with
  | error fault => rfl
  | ok given =>
    simp only [Except.map, bind, Except.bind]
    split <;> rfl

/-- The styles in the rows of a database, in ascending order of their keys. -/
def readRows (rows : Std.ExtTreeMap Int Style) : Except StoreFault Given :=
  rows.toList.mapM fun (key, style) => do
    pure (← Cell.toSeverity key, style)

theorem severityConfig_eq_map (database : Database) :
    database.severityConfig = (readRows database.styles).map ofStyles := rfl

/-- Configurations as they are. -/
def configs : Handling SeverityConfig Memory Database where
  default := default
  ofStyles := ofStyles
  read := decoder.run
  set := Levels.set
  memory := ⟨Store.setSeverityConfig, Store.severityConfig⟩
  database := ⟨Store.setSeverityConfig, Store.severityConfig⟩

/-- Sheets in place of configurations. A text is collected on a sheet of its own first, and a database keeps
a row for each style that is there. -/
def sheets : Handling Sheet (Option Sheet) (Std.ExtTreeMap Int Style) where
  default := .default
  ofStyles := .ofStyles
  read text := (givenDecoder.run text).map fun given => .ofStyles (Sheet.blank.writeAll given).styles
  set := Sheet.write
  memory := ⟨fun _ sheet => .ok (some sheet), fun kept => .ok (kept.getD .default)⟩
  database :=
    ⟨fun _ sheet => .ok (.ofList (sheet.styles.map fun (severity, style) => ((severity.level : Int), style))),
      fun rows => (readRows rows).map .ofStyles⟩

/-- The styles that were given, in the order in which they were. -/
def histories : Handling Given Given (Except StoreFault Given) where
  default := []
  ofStyles given := given
  read := givenDecoder.run
  set given severity style := given ++ [(severity, style)]
  memory := ⟨fun _ given => .ok given, .ok⟩
  database := ⟨fun _ given => .ok (.ok given), id⟩

/-- The rows of a database fill a sheet with all styles of the configuration that is read from them. -/
theorem agree_severityConfig (database : Database) :
    Agree (fun config sheet => sheet = Sheet.full config) database.severityConfig
      ((readRows database.styles).map Sheet.ofStyles) := by
  rw [severityConfig_eq_map]
  exact .map_map Sheet.ofStyles_eq_full

/-- Every sheet that turns up has all styles of the configuration in its place. -/
theorem sheets_follow : Handling.Follows (fun config sheet => sheet = .full config) configs sheets where
  default := Sheet.default_eq_full
  ofStyles := Sheet.ofStyles_eq_full
  read text := by
    have read : configs.read text = (givenDecoder.run text).map ofStyles := decoder_run text
    rw [read]
    exact .map_map Sheet.ofStyles_collected
  set := by
    rintro config _ severity style rfl
    exact Sheet.write_full config severity style
  memory := by
    rintro store kept config _ rfl
    exact .ok (.ok rfl)
  database := by
    rintro database rows config _ rfl
    exact .ok (agree_severityConfig (database.setSeverityConfig config))

theorem agree_given {ε : Type} (result : Except ε Given) :
    Agree (fun config given => config = ofStyles given) (result.map ofStyles) result := by
  cases result with
  | ok given => exact .ok rfl
  | error fault => exact .error fault

/-- Every configuration that turns up shows the styles that were given, over the defaults. -/
theorem histories_follow : Handling.Follows (fun config given => config = ofStyles given) configs histories where
  default := rfl
  ofStyles _ := rfl
  read text := by
    have read : configs.read text = (givenDecoder.run text).map ofStyles := decoder_run text
    rw [read]
    exact agree_given _
  set := by
    rintro _ given severity style rfl
    exact (ofStyles_concat given (severity, style)).symm
  memory := by
    rintro store kept _ given rfl
    exact .ok (.ok rfl)
  database := by
    rintro database kept _ given rfl
    have read : configs.database.take (database.setSeverityConfig (ofStyles given)) = .ok (ofStyles given) :=
      Database.severityConfig_setSeverityConfig database _
    refine .ok ?_
    rw [read]
    exact .ok rfl

section Runs

variable (memory : Memory) (database : Database)

/-- The default configuration and two stores. -/
def desk : Desk SeverityConfig Memory Database := ⟨default, memory, database⟩

/-- The same on sheets. -/
def sheetDesk : Desk Sheet (Option Sheet) (Std.ExtTreeMap Int Style) :=
  ⟨.default, memory.config.map .full, database.styles⟩

/-- No style is given yet, but the stores may have some. -/
def history : Desk Given Given (Except StoreFault Given) :=
  ⟨[], (memory.config.map Levels.toList).getD [], readRows database.styles⟩

theorem sheetDesk_follows :
    DesksFollow (fun config sheet => sheet = .full config) configs sheets (desk memory database)
      (sheetDesk memory database) where
  hand := Sheet.default_eq_full
  memory := by
    refine .ok ?_
    cases kept : memory.config <;> simp [sheetDesk, kept, desk, Sheet.default_eq_full]
  database := agree_severityConfig database

theorem history_follows :
    DesksFollow (fun config given => config = ofStyles given) configs histories (desk memory database)
      (history memory database) where
  hand := rfl
  memory := by
    refine .ok ?_
    cases kept : memory.config with
    | none => simp [history, kept, desk, ofStyles, Levels.setAll]
    | some config => simp [history, kept, desk]
  database := by
    have read : configs.database.take (desk memory database).database = (readRows database.styles).map ofStyles :=
      severityConfig_eq_map database
    rw [read]
    exact agree_given _

/-- Only a text or a database that cannot be read stops the steps. -/
theorem exists_run_histories {steps : List Step}
    (texts : ∀ text, .read text ∈ steps → ∃ given, Gives text given)
    {desk : Desk Given Given (Except StoreFault Given)} (kept : ∃ given, desk.database = .ok given) :
    ∃ after, histories.run steps desk = .ok after := by
  -- Carried along: the database can be read, as it can after anything was put into it.
  induction steps generalizing desk with
  | nil => exact ⟨desk, rfl⟩
  | cons step rest ih =>
    obtain ⟨next, performed, kept⟩ :
        ∃ next, histories.perform desk step = .ok next ∧ ∃ given, next.database = .ok given := by
      cases step with
      | default | ofStyles | set => exact ⟨_, rfl, kept⟩
      | read text =>
        obtain ⟨given, read⟩ := texts text (List.mem_cons_self ..)
        refine ⟨{ desk with hand := given }, ?_, kept⟩
        have read : histories.read text = .ok given := givenDecoder_run_eq_ok_iff.mpr read
        rw [perform, read]
        rfl
      | keep place =>
        cases place with
        | memory => exact ⟨_, rfl, kept⟩
        | database => exact ⟨_, rfl, _, rfl⟩
      | fetch place =>
        cases place with
        | memory => exact ⟨_, rfl, kept⟩
        | database =>
          obtain ⟨given, kept⟩ := kept
          refine ⟨{ desk with hand := given }, ?_, given, kept⟩
          have taken : histories.database.take desk.database = .ok given := kept
          rw [perform, taken]
          rfl
    rw [run, List.foldlM_cons, performed]
    exact ih (fun text member => texts text (List.mem_cons_of_mem _ member)) kept

/-- A configuration is complete, however it came about. The steps go through whenever the texts can be read,
and so can what the database has at first; every configuration that they lead to has a style for each level,
lists the levels in ascending order, each once, and shows for each the style that was given last, or else the
default. That no style is missing is said of the sheet that the same steps lead to. -/
theorem complete_after_steps (steps : List Step) :
    (∀ text given, histories.read text = .ok given ↔ Gives text given) ∧
      (∀ given, Gives (listing given).compact given) ∧
      ((∃ given, readRows database.styles = .ok given) →
        (∀ text, .read text ∈ steps → ∃ given, Gives text given) →
          ∃ after, configs.run steps (desk memory database) = .ok after) ∧
      ∀ after, configs.run steps (desk memory database) = .ok after →
        ∃ sheet given, sheets.run steps (sheetDesk memory database) = .ok sheet ∧
          histories.run steps (history memory database) = .ok given ∧
          (∀ severity, sheet.hand.style? severity = some (after.hand.get severity)) ∧
          sheet.hand.styles = after.hand.toList ∧ sheet.hand.styles.map Prod.fst = Severity.all ∧
          ∀ severity, after.hand.get severity =
            (Levels.last? severity given.hand).getD (default.get severity) := by
  have asGiven := histories_follow.run (history_follows memory database) steps
  refine ⟨fun _ _ => givenDecoder_run_eq_ok_iff, gives_listing, fun rows texts => ?goes, fun after success => ?complete⟩
  case goes =>
    obtain ⟨given, went⟩ : ∃ given, histories.run steps (history memory database) = .ok given :=
      exists_run_histories texts rows
    obtain ⟨after, success, _⟩ := asGiven.exists_left went
    exact ⟨after, success⟩
  case complete =>
    have onSheets := sheets_follow.run (sheetDesk_follows memory database) steps
    obtain ⟨sheet, filled, full⟩ := onSheets.exists_right success
    obtain ⟨given, went, shown⟩ := asGiven.exists_right success
    refine ⟨sheet, given, filled, went, fun severity => ?_, ?_, ?_, fun severity => ?_⟩
    · rw [full.hand, Sheet.style?_full]
    · rw [full.hand, Sheet.styles_full]
    · rw [full.hand, Sheet.styles_full, Levels.map_fst_toList]
    · rw [shown.hand, ofStyles, Levels.get_setAll]

end Runs

/-- A text with two styles for one level, a style set later, both stores in use, and new styles at hand before
the earlier ones are fetched again. -/
theorem complete_after_steps_mixed :
    let text := (listing [(.disaster, ⟨"Bad", "000001"⟩), (.disaster, ⟨"Worst", "000002"⟩)]).compact
    let steps := [.read text, .set .high ⟨"Grave", "000003"⟩, .keep .database, .ofStyles [(.high, ⟨"Odd", "000004"⟩)],
      .keep .memory, .fetch .database]
    (∃ given, readRows Database.empty.styles = .ok given) ∧
      (∀ text, .read text ∈ steps → ∃ given, Gives text given) ∧
      ∃ after, configs.run steps (desk .empty .empty) = .ok after ∧
        after.hand.get .disaster = ⟨"Worst", "000002"⟩ ∧ after.hand.get .high = ⟨"Grave", "000003"⟩ ∧
        after.hand.get .warning = ⟨"Warning", "FFC859"⟩ := by
  intro text steps
  obtain ⟨reads, listed, goes, complete⟩ := complete_after_steps .empty .empty steps
  have rows : ∃ given, readRows Database.empty.styles = .ok given := ⟨[], by rfl⟩
  have texts : ∀ text, .read text ∈ steps → ∃ given, Gives text given := by
    intro other member
    obtain rfl : other = text := by simpa [steps] using member
    exact ⟨_, listed _⟩
  obtain ⟨after, success⟩ := goes rows texts
  obtain ⟨_, given, _, went, _, _, _, last⟩ := complete after success
  have read := (reads text _).mpr (listed _)
  have hand : given.hand =
      [(.disaster, ⟨"Bad", "000001"⟩), (.disaster, ⟨"Worst", "000002"⟩), (.high, ⟨"Grave", "000003"⟩)] := by
    rw [run, List.foldlM_cons, perform, read] at went
    exact congrArg Desk.hand (Except.ok.inj went).symm
  refine ⟨rows, texts, after, success, ?_, ?_, ?_⟩ <;> rw [last, hand] <;> decide

end SeverityConfig

end ProblemBoard
