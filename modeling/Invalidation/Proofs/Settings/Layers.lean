import Invalidation.Proofs.Reading.Acceptance
import Invalidation.Proofs.Reading.Faults
import Invalidation.Proofs.Settings.Decision

/-!
# What settings are loaded

Settings are loaded where every raw value that decides one of them is accepted and every argument
names one, and they hold what these values read as. Otherwise all that stands in the way is told: a
fault for every setting whose value is not accepted, in the order of the settings, and behind them
one for every argument that names none (`Settings.load_follows_layers`).

That is so where the sources are as usual. Arguments may also be about the sources themselves, and
then variables of other names may count.
-/

set_option autoImplicit false

namespace Invalidation

variable {about : String → Concern} {environment : Environment} {arguments fields : Fields}

namespace SettingName

/-- The raw value converts and meets the bound of the setting. -/
def Accepts : SettingName → Raw → Prop
  | .supportTeardown, raw | .batchInvalidation, raw => ∃ value, Reading.boolean raw = .valid value
  | .clusterNodes, raw => ∃ n, Reading.integer raw = .valid n ∧ 1 ≤ n
  | .journalSize, raw => ∃ n, Reading.integer raw = .valid n ∧ 0 ≤ n
  | .logLevel, raw => ∃ s, raw = .text s

/-- What is wrong with the raw value of a setting, if anything. -/
def offence? : SettingName → Raw → Option Defect
  | .supportTeardown, raw | .batchInvalidation, raw => (Reading.boolean raw).defect?
  | .clusterNodes, raw => (Reading.atLeast 1 raw).defect?
  | .journalSize, raw => (Reading.atLeast 0 raw).defect?
  | .logLevel, raw => (Reading.text raw).defect?

theorem exists_atLeast_iff {bound : Nat} {raw : Raw} :
    (∃ value, Reading.atLeast bound raw = .valid value) ↔
      ∃ n, Reading.integer raw = .valid n ∧ (bound : Int) ≤ n := by
  simp only [Reading.atLeast_eq_valid_iff]
  constructor
  · rintro ⟨⟨n, bounded⟩, read⟩
    exact ⟨n, read, Int.ofNat_le.2 bounded⟩
  · rintro ⟨n, read, bounded⟩
    obtain ⟨m, rfl⟩ := Int.eq_ofNat_of_zero_le (Int.le_trans (Int.natCast_nonneg bound) bounded)
    exact ⟨⟨m, Int.ofNat_le.1 bounded⟩, read⟩

theorem offence?_eq_none_iff {setting : SettingName} {raw : Raw} :
    setting.offence? raw = none ↔ setting.Accepts raw := by
  cases setting with
  | supportTeardown | batchInvalidation => exact Checked.defect?_eq_none_iff
  | clusterNodes | journalSize => exact Checked.defect?_eq_none_iff.trans exists_atLeast_iff
  | logLevel =>
    refine Checked.defect?_eq_none_iff.trans ?_
    simp only [Reading.text_eq_valid_iff, Accepts]

end SettingName

namespace Settings

/-- The settings hold what the raw values read as. -/
structure Carries (settings : Settings) (decided : SettingName → Raw) : Prop where
  supportTeardown :
    Reading.boolean (decided .supportTeardown) = .valid settings.supportTeardown
  batchInvalidation :
    Reading.boolean (decided .batchInvalidation) = .valid settings.batchInvalidation
  clusterNodes : Reading.integer (decided .clusterNodes) = .valid settings.clusterNodes
  clusterNodes_pos : 1 ≤ settings.clusterNodes
  journalSize : Reading.integer (decided .journalSize) = .valid settings.journalSize
  logLevel : decided .logLevel = .text settings.logLevel

/-- A fault for every setting whose raw value is not accepted, in the order of the settings. -/
def offences (decided : SettingName → Raw) : List Fault :=
  (Coded.all : List SettingName).filterMap fun setting =>
    (setting.offence? (decided setting)).map (Fault.mk [.field (code setting)])

def Known (name : String) : Prop := ∃ setting : SettingName, Text.lower name = code setting

theorem isSome_ofCode?_iff {name : String} :
    (Coded.ofCode? (Text.lower name) : Option SettingName).isSome ↔ Known name := by
  rw [Option.isSome_iff_exists]
  exact exists_congr fun setting => Coded.ofCode?_eq_some_iff.trans eq_comm

instance (name : String) : Decidable (Known name) := decidable_of_iff _ isSome_ofCode?_iff

/-- A fault for every argument that names no setting, in the order given. -/
def refusals (arguments : Fields) : List Fault :=
  (arguments.filter fun argument => ¬ Known argument.1).map fun argument =>
    ⟨[.field argument.1], .unknownField⟩

theorem faults_refuseUnknown (arguments : Fields) :
    (refuseUnknown arguments).faults = refusals arguments := by
  induction arguments with
  | nil => rfl
  | cons argument rest ih =>
    obtain ⟨name, raw⟩ := argument
    have known : (Coded.ofCode? (Text.lower name) : Option SettingName).isSome ↔ Known name :=
      isSome_ofCode?_iff
    rw [refuseUnknown, refusals]
    cases found : (Coded.ofCode? (Text.lower name) : Option SettingName) with
    | some setting =>
      rw [found] at known
      rw [List.filter_cons_of_neg (by simpa using known.1 rfl)]
      exact ih
    | none =>
      rw [found] at known
      rw [List.filter_cons_of_pos (by simpa using known), Checked.faults_map, Checked.faults_both,
        ih]
      rfl

def field {α : Type} (decided : SettingName → Raw) (setting : SettingName) (read : Reader α) :
    Checked α :=
  (read (decided setting)).below (.field (code setting))

theorem faults_field {α : Type} {read : Reader α} (plain : ∀ raw, (read raw).Plain)
    (decided : SettingName → Raw) (setting : SettingName) :
    (field decided setting read).faults =
      ((read (decided setting)).defect?.map (Fault.mk [.field (code setting)])).toList :=
  Checked.faults_below_of_plain (plain _) _

theorem field_eq_valid_iff {α : Type} {read : Reader α} {decided : SettingName → Raw}
    {setting : SettingName} {value : α} :
    field decided setting read = .valid value ↔ read (decided setting) = .valid value :=
  Checked.below_eq_valid_iff

def settle (decided : SettingName → Raw) (arguments : Fields) : Checked Settings :=
  ((field decided .supportTeardown Reading.boolean).both
    ((field decided .batchInvalidation Reading.boolean).both
      ((field decided .clusterNodes (Reading.atLeast 1)).both
        ((field decided .journalSize (Reading.atLeast 0)).both
          ((field decided .logLevel Reading.text).both (refuseUnknown arguments)))))).map fun p =>
    ⟨p.1, p.2.1, p.2.2.1.val, p.2.2.2.1.val, p.2.2.2.2.1, p.2.2.1.property⟩

theorem layered_eq_field {α : Type} {setting : SettingName} {default : α} {read : Reader α}
    (reads : read setting.default = .valid default) :
    layered .standard environment arguments setting default read =
      field (chosen environment arguments) setting read := by
  unfold layered field chosen
  cases decided .standard environment arguments setting with
  | some raw => rfl
  | none =>
    rw [Option.getD_none, reads]
    rfl

theorem read_eq_settle (environment : Environment) (arguments : Fields) :
    read .standard environment arguments = settle (chosen environment arguments) arguments := by
  have switch (setting : SettingName) (value : Bool) (same : setting.default = .bool value) :
      layered .standard environment arguments setting value Reading.boolean =
        field (chosen environment arguments) setting Reading.boolean :=
    layered_eq_field (by rw [same]; rfl)
  have nodes : layered .standard environment arguments .clusterNodes ⟨1, by decide⟩
      (Reading.atLeast 1) = field (chosen environment arguments) .clusterNodes _ :=
    layered_eq_field rfl
  have journal : layered .standard environment arguments .journalSize ⟨1000, by decide⟩
      (Reading.atLeast 0) = field (chosen environment arguments) .journalSize _ :=
    layered_eq_field rfl
  have level : layered .standard environment arguments .logLevel "INFO" Reading.text =
      field (chosen environment arguments) .logLevel Reading.text := layered_eq_field rfl
  simp only [read, settle, switch .supportTeardown false rfl, switch .batchInvalidation true rfl,
    nodes, journal, level]

theorem faults_settle (decided : SettingName → Raw) (arguments : Fields) :
    (settle decided arguments).faults = offences decided ++ refusals arguments := by
  simp only [settle, Checked.faults_map, Checked.faults_both, faults_refuseUnknown,
    faults_field Reading.plain_boolean, faults_field (Reading.plain_atLeast _),
    faults_field Reading.plain_text]
  rw [offences, List.filterMap_eq_flatMap_toList]
  simp [Coded.all, SettingName.offence?]

theorem refusals_eq_nil_iff :
    refusals arguments = [] ↔ ∀ argument ∈ arguments, Known argument.1 := by
  simp [refusals, List.filter_eq_nil_iff]

theorem offences_eq_nil_iff {decided : SettingName → Raw} :
    offences decided = [] ↔ ∀ setting : SettingName, setting.Accepts (decided setting) := by
  simp only [offences, List.filterMap_eq_nil_iff, Option.map_eq_none_iff,
    SettingName.offence?_eq_none_iff]
  exact ⟨fun accepted setting => accepted setting (Coded.mem_all setting),
    fun accepted setting _ => accepted setting⟩

theorem exists_settle_iff {decided : SettingName → Raw} :
    (∃ settings, settle decided arguments = .valid settings) ↔
      (∀ setting : SettingName, setting.Accepts (decided setting)) ∧
        ∀ argument ∈ arguments, Known argument.1 := by
  rw [← Checked.faults_eq_nil_iff, faults_settle, List.append_eq_nil_iff, offences_eq_nil_iff,
    refusals_eq_nil_iff]

theorem refuseUnknown_eq_valid_iff :
    refuseUnknown arguments = .valid () ↔ ∀ argument ∈ arguments, Known argument.1 := by
  rw [← refusals_eq_nil_iff, ← faults_refuseUnknown, Checked.faults_eq_nil_iff]
  exact ⟨fun clean => ⟨(), clean⟩, fun ⟨_, clean⟩ => clean⟩

theorem settle_eq_valid_iff {decided : SettingName → Raw} {settings : Settings} :
    settle decided arguments = .valid settings ↔
      settings.Carries decided ∧ ∀ argument ∈ arguments, Known argument.1 := by
  simp only [settle, Checked.map_eq_valid_iff, Checked.both_eq_valid_iff, field_eq_valid_iff]
  constructor
  · rintro ⟨⟨_, _, nodes, _, _, _⟩, ⟨teardown, batches, nodesRead, journal, level, clean⟩, rfl⟩
    refine ⟨?_, refuseUnknown_eq_valid_iff.1 clean⟩
    exact ⟨teardown, batches, Reading.atLeast_eq_valid_iff.1 nodesRead, nodes.property,
      Reading.atLeast_eq_valid_iff.1 journal, Reading.text_eq_valid_iff.1 level⟩
  · rintro ⟨carries, known⟩
    have nodes : Reading.atLeast 1 (decided .clusterNodes) =
        .valid ⟨settings.clusterNodes, settings.clusterNodes_pos⟩ :=
      Reading.atLeast_eq_valid_iff.2 carries.clusterNodes
    have journal : Reading.atLeast 0 (decided .journalSize) =
        .valid ⟨settings.journalSize, Nat.zero_le _⟩ :=
      Reading.atLeast_eq_valid_iff.2 carries.journalSize
    exact ⟨(_, _, _, _, _, ()), ⟨carries.supportTeardown, carries.batchInvalidation, nodes, journal,
      Reading.text_eq_valid_iff.2 carries.logLevel, refuseUnknown_eq_valid_iff.2 known⟩, rfl⟩

def settingArguments (about : String → Concern) (fields : Fields) : Fields :=
  fields.filter fun field => about field.1 = .setting

/-- What the arguments say about the sources. -/
def options (about : String → Concern) (fields : Fields) : List (SourceOption × Raw) :=
  fields.filterMap fun field =>
    match about field.1 with
    | .option option => some (option, field.2)
    | _ => none

/-- The arguments leave the sources as they usually are. -/
structure LeavesSources (about : String → Concern) (fields : Fields) : Prop where
  /-- None is the settings themselves. -/
  own : ∀ field ∈ fields, about field.1 ≠ .itself
  usual : Sources.ofOptions (code SettingName.supportTeardown) (options about fields) =
    .ok (.environment .standard)

/-- So it is where no argument is about the sources. -/
theorem leavesSources_of_plain
    (plain : ∀ field ∈ fields, about field.1 = .setting ∨ about field.1 = .aside) :
    LeavesSources about fields := by
  constructor
  case own =>
    intro field listed
    rcases plain field listed with same | same <;> simp [same]
  case usual =>
    have none : options about fields = [] := by
      refine List.filterMap_eq_nil_iff.2 fun field listed => ?_
      rcases plain field listed with same | same <;> simp [same]
    rw [none]
    rfl

theorem load_eq (leaves : LeavesSources about fields) (environment : Environment) :
    load about environment (.object fields) =
      match settle (chosen environment (settingArguments about fields))
        (settingArguments about fields) with
      | .valid settings => .ok settings
      | .faulty first more => .error (.invalid first more) := by
  have own : (fields.any fun field => about field.1 = .itself) = false := by
    simpa using leaves.own
  rw [← read_eq_settle]
  calc load about environment (.object fields)
      = (Sources.ofOptions (code SettingName.supportTeardown) (options about fields)).bind
          fun sources =>
            match gather environment (settingArguments about fields) sources with
            | .valid settings => .ok settings
            | .faulty first more => .error (.invalid first more) := by
        simp only [load, own, Bool.false_eq_true, if_false]
        rfl
    _ = _ := by
        rw [leaves.usual]
        rfl

theorem load_eq_ok_iff (leaves : LeavesSources about fields) {settings : Settings} :
    load about environment (.object fields) = .ok settings ↔
      settle (chosen environment (settingArguments about fields))
        (settingArguments about fields) = .valid settings := by
  rw [load_eq leaves]
  cases settle (chosen environment (settingArguments about fields))
    (settingArguments about fields) <;> simp

/-- Where the sources are as usual and no setting has more than one variable, each setting is
decided by the first argument for it, or else by its variable, or else by its default. Settings are
loaded exactly if all these values are accepted and every argument names a setting, and they hold
what the values read as. Otherwise the failure tells, in the order of the settings, of each value
that is not accepted, and then of each argument that names no setting. The variables of settings
with an argument and those of no setting do not matter. -/
theorem load_follows_layers (leaves : LeavesSources about fields)
    (single : environment.Unambiguous) :
    ∃ decided : SettingName → Raw,
      (∀ setting raw, Decides environment (settingArguments about fields) setting raw ↔
        raw = decided setting) ∧
      ((∃ settings, load about environment (.object fields) = .ok settings) ↔
        (∀ setting : SettingName, setting.Accepts (decided setting)) ∧
          ∀ argument ∈ settingArguments about fields, Known argument.1) ∧
      (∀ settings, load about environment (.object fields) = .ok settings →
        settings.Carries decided) ∧
      (∀ failure, load about environment (.object fields) = .error failure →
        ∃ first more, failure = .invalid first more ∧
          first :: more = offences decided ++ refusals (settingArguments about fields)) ∧
      ∀ other : Environment, other.Unambiguous →
        Agree (settingArguments about fields) environment other →
          load about other (.object fields) = load about environment (.object fields) := by
  have loads := load_eq leaves environment
  have faults := faults_settle (chosen environment (settingArguments about fields))
    (settingArguments about fields)
  refine ⟨chosen environment (settingArguments about fields), fun setting raw => decides_iff single,
    ?_, fun settings loaded => ?_, fun failure refused => ?_, fun other unmixed agree => ?_⟩
  · simp only [load_eq_ok_iff leaves]
    exact exists_settle_iff
  · exact (settle_eq_valid_iff.1 ((load_eq_ok_iff leaves).1 loaded)).1
  · rw [loads] at refused
    cases settled : settle (chosen environment (settingArguments about fields))
        (settingArguments about fields) with
    | valid settings =>
      rw [settled] at refused
      cases refused
    | faulty first more =>
      rw [settled] at refused faults
      exact ⟨first, more, (Except.error.inj refused).symm, faults⟩
  · rw [load_eq leaves, loads, chosen_congr single unmixed agree]

/-- Two values are not accepted: that of a variable below the bound, and that of an argument before
a good variable. Without this variable and with another one of no setting, the failure is the
same. -/
theorem load_follows_layers_over_shadowed_variable :
    let about : String → Concern := fun name => if name = "_cli_prog_name" then .aside else .setting
    let fields : Fields :=
      [("Journal_Size", .text "x"), ("BOGUS", .int 1), ("_cli_prog_name", .null)]
    let environment : Environment :=
      [("cachebinder_Journal_Size", "5"), ("CACHEBINDER_CLUSTER_NODES", "0")]
    let other : Environment := [("CACHEBINDER_CLUSTER_NODES", "0"), ("HOME", "/")]
    LeavesSources about fields ∧ environment.Unambiguous ∧ other.Unambiguous ∧
      Agree (settingArguments about fields) environment other ∧
      load about environment (.object fields) = .error (.invalid
        ⟨[.field "cluster_nodes"], .belowBound⟩ [⟨[.field "journal_size"], .unreadableInteger⟩,
          ⟨[.field "BOGUS"], .unknownField⟩]) ∧
      load about other (.object fields) = load about environment (.object fields) := by
  intro about fields environment other
  have leaves : LeavesSources about fields := leavesSources_of_plain (by decide)
  have nodes : Text.lower "CACHEBINDER_CLUSTER_NODES" = "cachebinder_cluster_nodes" :=
    (Text.lower_of_ascii (by decide)).trans (by decide)
  have journal : Text.lower "cachebinder_Journal_Size" = "cachebinder_journal_size" :=
    (Text.lower_of_ascii (by decide)).trans (by decide)
  have home : Text.lower "HOME" = "home" := (Text.lower_of_ascii (by decide)).trans (by decide)
  have size : Text.lower "Journal_Size" = "journal_size" :=
    (Text.lower_of_ascii (by decide)).trans (by decide)
  have bogus : Text.lower "BOGUS" = "bogus" := (Text.lower_of_ascii (by decide)).trans (by decide)
  have single : environment.Unambiguous :=
    Environment.unambiguous_of_nodup (by simp [environment, journal, nodes])
  have unmixed : other.Unambiguous :=
    Environment.unambiguous_of_nodup (by simp [other, nodes, home])
  have agree : Agree (settingArguments about fields) environment other := by
    intro setting ungiven entry named
    have given : Gives (settingArguments about fields) .journalSize (.text "x") :=
      ⟨[], "Journal_Size", _, rfl, size, by simp⟩
    have shadowed : setting ≠ .journalSize := fun same => ungiven _ (same ▸ given)
    have unsaid : entry ≠ ("cachebinder_Journal_Size", "5") := by
      rintro rfl
      rw [journal] at named
      cases setting <;> revert named shadowed <;> decide
    have unrelated : entry ≠ ("HOME", "/") := by
      rintro rfl
      rw [home] at named
      cases setting <;> revert named <;> decide
    simp [environment, other, unsaid, unrelated]
  have values : chosen environment (settingArguments about fields) = fun setting =>
      match setting with
      | .clusterNodes => .text "0"
      | .journalSize => .text "x"
      | setting => setting.default := by
    funext setting
    rw [chosen, decided, Lookup.find?_standard]
    cases setting <;>
      simp [named?, settingArguments, about, fields, environment, size, bogus, nodes, journal,
        SettingName.variableName, code]
  have failed : load about environment (.object fields) = .error (.invalid
      ⟨[.field "cluster_nodes"], .belowBound⟩ [⟨[.field "journal_size"], .unreadableInteger⟩,
        ⟨[.field "BOGUS"], .unknownField⟩]) := by
    rw [load_eq leaves, values]
    decide +kernel
  obtain ⟨decided, -, -, -, -, apart⟩ := load_follows_layers leaves single
  exact ⟨leaves, single, unmixed, agree, failed, apart other unmixed agree⟩

/-- Arguments that say where settings come from have their way: with another beginning of the names
of variables, a variable does not count, and neither is the argument refused. Nor is an argument
that names a setting in capitals. -/
theorem loader_arguments_come_first :
    let about : String → Concern := fun name =>
      if name = "_env_prefix" then .option .beginning else .setting
    (Coded.ofCode? "_env_prefix" : Option SettingName) = none ∧
      load about [("CACHEBINDER_CLUSTER_NODES", "7")] (.object [("_env_prefix", .text "X_")]) =
        .ok ⟨false, true, 1, 1000, "INFO", by decide⟩ ∧
      (Coded.ofCode? "CLUSTER_NODES" : Option SettingName) = none ∧
      load about [] (.object [("CLUSTER_NODES", .int 2)]) =
        .ok ⟨false, true, 2, 1000, "INFO", by decide⟩ := by
  decide +kernel

end Settings

end Invalidation
