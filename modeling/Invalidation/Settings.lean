import Invalidation.Settings.Sources

/-!
# Settings

Each of the five settings is decided by the first of three layers that has it: an argument, a
variable of the environment, and a default. Letter case does not matter in the names of arguments,
and of several arguments to one setting the first one counts. An argument that does not read is a
fault, also where the environment has a good value. Faults come in the order of the settings, and
behind them one for every argument that names no setting.

Source: `BinderSettings`.
-/

set_option autoImplicit false

namespace Invalidation

structure Settings where
  /-- Whether the handlers are unbound when the host stops. -/
  supportTeardown : Bool
  /-- Whether the cluster takes commands with many keys. -/
  batchInvalidation : Bool
  clusterNodes : Nat
  /-- How many commands the journal keeps. -/
  journalSize : Nat
  logLevel : String
  clusterNodes_pos : 1 ≤ clusterNodes
  deriving DecidableEq

inductive SettingName where
  | supportTeardown | batchInvalidation | clusterNodes | journalSize | logLevel
  deriving DecidableEq, Repr

instance : Coded SettingName where
  all := [.supportTeardown, .batchInvalidation, .clusterNodes, .journalSize, .logLevel]
  code
    | .supportTeardown => "support_teardown"
    | .batchInvalidation => "batch_invalidation"
    | .clusterNodes => "cluster_nodes"
    | .journalSize => "journal_size"
    | .logLevel => "log_level"
  find_code setting := by cases setting <;> rfl

/-- What an argument is about. -/
inductive Concern where
  /-- A setting, if it has the name of one. -/
  | setting
  /-- Where settings come from. -/
  | option (option : SourceOption)
  /-- Something that does not matter to any setting. -/
  | aside
  /-- The settings themselves, which cannot be an argument. -/
  | itself
  deriving DecidableEq, Repr

namespace Settings

/-- The first argument whose name is the given one but for letter case. -/
def named? (name : String) (arguments : Fields) : Option Raw :=
  (arguments.find? fun argument => Text.lower argument.1 == name).map Prod.snd

/-- The raw value that decides a setting, unless its default does. -/
def decided (lookup : Lookup) (environment : Environment) (arguments : Fields)
    (setting : SettingName) : Option Raw :=
  (named? (code setting) arguments).or (lookup.find? environment (code setting))

/-- One setting with its default. -/
def layered {α : Type} (lookup : Lookup) (environment : Environment) (arguments : Fields)
    (setting : SettingName) (default : α) (read : Reader α) : Checked α :=
  match decided lookup environment arguments setting with
  | some raw => (read raw).below (.field (code setting))
  | none => .valid default

def refuseUnknown : Fields → Checked Unit
  | [] => .valid ()
  | (name, _) :: rest =>
    match (Coded.ofCode? (Text.lower name) : Option SettingName) with
    | some _ => refuseUnknown rest
    | none =>
      (((Checked.flaw .unknownField : Checked Unit).below (.field name)).both
        (refuseUnknown rest)).map fun _ => ()

def read (lookup : Lookup) (environment : Environment) (arguments : Fields) :
    Checked Settings :=
  let teardown :=
    layered lookup environment arguments .supportTeardown false Reading.boolean
  let batches :=
    layered lookup environment arguments .batchInvalidation true Reading.boolean
  let nodes :=
    layered lookup environment arguments .clusterNodes ⟨1, by decide⟩ (Reading.atLeast 1)
  let journal :=
    layered lookup environment arguments .journalSize ⟨1000, by decide⟩ (Reading.atLeast 0)
  let level := layered lookup environment arguments .logLevel "INFO" Reading.text
  (teardown.both (batches.both (nodes.both (journal.both (level.both
    (refuseUnknown arguments)))))).map
      fun (teardown, batches, nodes, journal, level, _) =>
        ⟨teardown, batches, nodes.val, journal.val, level, nodes.property⟩

def gather (environment : Environment) (arguments : Fields) : Sources → Checked Settings
  | .environment lookup => read lookup environment arguments
  | .nowhere => read .standard [] []

/-- Loads settings from arguments, given what the name of an argument is about. The arguments must
be the fields of an object. -/
def load (about : String → Concern) (environment : Environment) (arguments : Raw) :
    Except Failure Settings := do
  match arguments with
  | .object fields =>
    if fields.any fun field => about field.1 = .itself then throw .selfGiven
    let options := fields.filterMap fun field =>
      match about field.1 with
      | .option option => some (option, field.2)
      | _ => none
    let sources ← Sources.ofOptions (code SettingName.supportTeardown) options
    match gather environment (fields.filter fun field => about field.1 = .setting) sources with
    | .valid settings => return settings
    | .faulty first more => throw (.invalid first more)
  | other => throw (.unnamed other.kind)

def dump (settings : Settings) : Raw :=
  .object
    [(code SettingName.supportTeardown, .bool settings.supportTeardown),
     (code SettingName.batchInvalidation, .bool settings.batchInvalidation),
     (code SettingName.clusterNodes, .int settings.clusterNodes),
     (code SettingName.journalSize, .int settings.journalSize),
     (code SettingName.logLevel, .text settings.logLevel)]

end Settings

end Invalidation
