import Invalidation.Host
import Invalidation.Proofs.World.Effect

/-!
# Building a host

The log level of settings may be any text. If its upper-case form names a level, that gives the
threshold, and the informational level does where it names none (`Threshold.ofText_of_names`,
`Threshold.ofText_of_unnamed`). Two texts name no level and are not passed over for it either, and
on a root that is not set up yet these keep a host from being built. On a root that is set up
nothing is looked at and nothing changes, and any attempt to build a host leaves such a root
(`RootLog.SetUp`, `Host.after_new_again`). Beside the log only the bound on the journal can stand in
the way, if it does not fit into a word. In all other cases the host is `Fresh`: a cluster with its
nodes, nothing bound and nothing done (`Host.new_builds_unless_level_is_layout`).
-/

set_option autoImplicit false

namespace Invalidation

namespace Threshold

/-- The text names the level with this threshold, but for letter case. -/
def Names (text : String) (threshold : Nat) : Prop := (Text.upper text, threshold) ∈ levels

def table : Table String Nat := ⟨levels, by decide⟩

theorem lookup_levels_iff {name : String} {threshold : Nat} :
    levels.lookup name = some threshold ↔ (name, threshold) ∈ levels :=
  table.get?_eq_some_iff name threshold

theorem layoutName_not_mem (threshold : Nat) : (layoutName, threshold) ∉ levels := by
  simp [levels, layoutName]

theorem layoutTableName_not_mem (threshold : Nat) : (layoutTableName, threshold) ∉ levels := by
  simp [levels, layoutTableName]

theorem ofText_of_names {text : String} {threshold : Nat} (names : Names text threshold) :
    ofText text = .ok threshold := by
  have apart : Text.upper text ≠ layoutName := fun same => by
    rw [Names, same] at names
    exact layoutName_not_mem threshold names
  have other : Text.upper text ≠ layoutTableName := fun same => by
    rw [Names, same] at names
    exact layoutTableName_not_mem threshold names
  rw [ofText, if_neg apart, if_neg other, lookup_levels_iff.2 names]
  rfl

theorem names_fallback : Names "INFO" fallback := by
  rw [Names]
  decide +kernel

/-- A text that names neither a level nor a layout stands for the informational level. -/
theorem ofText_of_unnamed {text : String} (unnamed : ∀ threshold, ¬Names text threshold)
    (apart : Text.upper text ≠ layoutName) (other : Text.upper text ≠ layoutTableName) :
    ofText text = .ok fallback := by
  have missing : levels.lookup (Text.upper text) = none := by
    rw [Option.eq_none_iff_forall_ne_some]
    exact fun threshold found => unnamed threshold (lookup_levels_iff.1 found)
  rw [ofText, if_neg apart, if_neg other, missing]
  rfl

theorem ofText_of_layout {text : String} (named : Text.upper text = layoutName) :
    ofText text = .error .levelIsLayout := by
  rw [ofText, if_pos named]

theorem ofText_of_layoutTable {text : String} (named : Text.upper text = layoutTableName) :
    ofText text = .error .levelIsLayoutTable := by
  have apart : Text.upper text ≠ layoutName := by
    rw [named]
    decide
  rw [ofText, if_neg apart, if_pos named]

/-- Every text gives a threshold but those that name a layout. -/
theorem exists_ofText_iff {text : String} :
    (∃ threshold, ofText text = .ok threshold) ↔
      Text.upper text ≠ layoutName ∧ Text.upper text ≠ layoutTableName := by
  by_cases named : Text.upper text = layoutName
  · simp [ofText_of_layout named, named]
  · by_cases tableNamed : Text.upper text = layoutTableName
    · simp [ofText_of_layoutTable tableNamed, tableNamed]
    · simp [ofText, named, tableNamed]

end Threshold

namespace RootLog

variable {root after : RootLog} {level : String}

/-- A root that is set up stays as it is, and the level is not looked at. -/
theorem configure_of_configured (configured : root.configured = true) (level : String) :
    configure level root = .ok () root := by
  obtain ⟨_, threshold⟩ := root
  subst configured
  rfl

/-- Any other root is set up before the level is looked at, so also if that fails. -/
theorem configure_of_unconfigured (unconfigured : root.configured = false) (level : String) :
    configure level root =
      match Threshold.ofText level with
      | .ok threshold => .ok () ⟨true, threshold⟩
      | .error failure => .error failure ⟨true, root.threshold⟩ := by
  obtain ⟨_, threshold⟩ := root
  subst unconfigured
  unfold configure
  cases Threshold.ofText level <;> rfl

/-- The log can be set up with the level: it is so already, or the upper-case form of the level is
neither of the names of layouts. -/
def Takes (root : RootLog) (level : String) : Prop :=
  root.configured = true ∨ Text.upper level ≠ "BASIC_FORMAT" ∧ Text.upper level ≠ "_STYLES"

/-- What becomes of a root when the log is set up with the level. -/
structure SetUp (level : String) (before after : RootLog) : Prop where
  configured : after.configured = true
  /-- A root that was set up before is still the same. -/
  kept : before.configured = true → after = before
  /-- Any other has the threshold of the named level. -/
  named : before.configured = false →
    ∀ threshold, Threshold.Names level threshold → after.threshold = threshold
  /-- Without a named level it has that of the informational one. -/
  informational : before.configured = false → (∀ threshold, ¬Threshold.Names level threshold) →
    Threshold.Names "INFO" after.threshold

theorem exists_configure_iff :
    (∃ after, configure level root = .ok () after) ↔ root.Takes level := by
  rw [Takes]
  cases configured : root.configured with
  | true => exact iff_of_true ⟨root, configure_of_configured configured level⟩ (.inl rfl)
  | false =>
    rw [configure_of_unconfigured configured level]
    have known := @Threshold.exists_ofText_iff level
    rw [Threshold.layoutName, Threshold.layoutTableName] at known
    rw [← known]
    cases Threshold.ofText level <;> simp

theorem setUp_of_configure (done : configure level root = .ok () after) :
    SetUp level root after := by
  cases configured : root.configured with
  | true =>
    rw [configure_of_configured configured level] at done
    injection done with _ same
    exact ⟨same ▸ configured, fun _ => same.symm, by simp [configured], by simp [configured]⟩
  | false =>
    rw [configure_of_unconfigured configured level] at done
    cases asked : Threshold.ofText level with
    | error failure =>
      rw [asked] at done
      cases done
    | ok threshold =>
      rw [asked] at done
      cases done
      have apart := Threshold.exists_ofText_iff.1 ⟨threshold, asked⟩
      refine ⟨rfl, by simp [configured], fun _ named names => ?_, fun _ unnamed => ?_⟩
      · rw [Threshold.ofText_of_names names] at asked
        exact (Except.ok.inj asked).symm
      · rw [Threshold.ofText_of_unnamed unnamed apart.1 apart.2] at asked
        obtain rfl := Except.ok.inj asked
        exact Threshold.names_fallback

theorem configured_after_configure (level : String) (root : RootLog) :
    ((configure level).after root).configured = true := by
  rw [Attempt.after]
  cases configured : root.configured with
  | true =>
    rw [configure_of_configured configured level]
    exact configured
  | false =>
    rw [configure_of_unconfigured configured level]
    cases Threshold.ofText level <;> rfl

end RootLog

namespace Host

variable {settings : Settings} {host : Host} {root after : RootLog}

/-- The host that settings describe, before anything is done with it. -/
def atRest (settings : Settings) : Host where
  settings := settings
  world := World.new (.cluster
    ⟨.bool settings.batchInvalidation,
      (List.range settings.clusterNodes).map fun index => .new (nodeName index) none,
      .empty (some settings.journalSize)⟩) 1 fun _ => []
  entered := false

/-- A cluster is built for any bound that fits into a word, and nothing else in a host can fail. -/
theorem assemble_eq (settings : Settings) :
    assemble settings =
      if settings.journalSize < Reading.wordBound then .ok (atRest settings)
      else .error .boundTooLarge := by
  rw [assemble, Cluster.new, Cluster.journalBound_natCast]
  by_cases fits : settings.journalSize < Reading.wordBound
  · rw [if_pos fits, if_pos fits]
    rfl
  · rw [if_neg fits, if_neg fits]
    rfl

theorem assemble_eq_ok_iff :
    assemble settings = .ok host ↔
      settings.journalSize < Reading.wordBound ∧ host = atRest settings := by
  rw [assemble_eq]
  by_cases fits : settings.journalSize < Reading.wordBound
  · rw [if_pos fits, Except.ok.injEq, eq_comm]
    exact (and_iff_right fits).symm
  · rw [if_neg fits]
    exact iff_of_false nofun fun built => fits built.1

/-- A host that was built from settings, and with which nothing was done. -/
structure Fresh (settings : Settings) (host : Host) : Prop where
  settings_eq : host.settings = settings
  /-- The sink is a cluster as the settings have it, with empty nodes that are numbered in order and
  an empty journal. -/
  cluster : ∃ cluster, host.world.outlet.sink = .cluster cluster ∧
    cluster.acceptsBatches = .bool settings.batchInvalidation ∧
    cluster.nodes.map Node.name =
      (List.range settings.clusterNodes).map (fun index => "node-" ++ toString index) ∧
    (∀ node ∈ cluster.nodes, node.entries = .empty ∧ node.links = .empty ∧ node.outage = none) ∧
    cluster.journal.bound = some settings.journalSize ∧ cluster.journal.commands = []
  binders : host.world.binders = [.new]
  unbound : host.isBound = false
  bus : host.world.bus.size = 0
  unnoticed : host.world.outlet.notices = []
  outside : host.entered = false

theorem fresh_atRest (settings : Settings) : (atRest settings).Fresh settings := by
  refine ⟨rfl, ⟨_, rfl, rfl, List.map_map, ?_, rfl, rfl⟩, rfl, rfl, rfl, rfl, rfl⟩
  intro node member
  obtain ⟨index, -, rfl⟩ := List.mem_map.1 member
  exact ⟨rfl, rfl, rfl⟩

/-- To build a host is to set the log up and then to put the host together, which leaves the root
as it is. -/
theorem new_apply (settings : Settings) (root : RootLog) :
    Host.new settings root =
      match RootLog.configure settings.logLevel root with
      | .ok _ after => Attempt.ofExcept (assemble settings) after
      | .error failure after => .error failure after := by
  rw [Host.new, Attempt.bind_apply]
  cases RootLog.configure settings.logLevel root <;> rfl

/-- A host is built if the log can be set up and the rest can be put together. -/
theorem new_eq_ok_iff :
    Host.new settings root = .ok host after ↔
      RootLog.configure settings.logLevel root = .ok () after ∧
        settings.journalSize < Reading.wordBound ∧ host = atRest settings := by
  rw [Host.new, Attempt.bind_eq_ok_iff, ← assemble_eq_ok_iff]
  constructor
  · rintro ⟨_, middle, done, built⟩
    obtain ⟨assembled, rfl⟩ := Attempt.ofExcept_eq_ok_iff.1 built
    exact ⟨done, assembled⟩
  · rintro ⟨done, assembled⟩
    exact ⟨(), after, done, Attempt.ofExcept_eq_ok_iff.2 ⟨assembled, rfl⟩⟩

/-- On a root that is set up the level does not matter, and the root stays as it is. -/
theorem new_of_configured (configured : root.configured = true) (settings : Settings) :
    Host.new settings root = Attempt.ofExcept (assemble settings) root := by
  rw [new_apply, RootLog.configure_of_configured configured]

/-- On any other root it decides whether a host is built, and then the threshold of the root. -/
theorem new_of_unconfigured (unconfigured : root.configured = false) (settings : Settings) :
    Host.new settings root =
      match Threshold.ofText settings.logLevel with
      | .ok threshold => Attempt.ofExcept (assemble settings) ⟨true, threshold⟩
      | .error failure => .error failure ⟨true, root.threshold⟩ := by
  rw [new_apply, RootLog.configure_of_unconfigured unconfigured]
  cases Threshold.ofText settings.logLevel <;> rfl

/-- After any attempt to build a host the root is set up. -/
theorem configured_after_new (settings : Settings) (root : RootLog) :
    ((Host.new settings).after root).configured = true := by
  have configured := RootLog.configured_after_configure settings.logLevel root
  rw [Attempt.after] at configured ⊢
  rw [new_apply]
  cases done : RootLog.configure settings.logLevel root with
  | error failure failed => rwa [done] at configured
  | ok _ middle =>
    rw [done] at configured
    cases assemble settings <;> exact configured

/-- What the first attempt to build a host made of the root, no later one changes. -/
theorem after_new_again (first later : Settings) (root : RootLog) :
    (Host.new later).after ((Host.new first).after root) = (Host.new first).after root := by
  rw [Attempt.after, new_of_configured (configured_after_new first root)]
  cases assemble later <;> rfl

/-- From any settings a host can be built whose journal has a bound that fits into a word, unless
the root is not set up yet and the upper-case form of the log level is one of the two names of
layouts. The host is then fresh and the root is set up with the level, or left as it was if it was
set up before. Otherwise the failure says which of the two was named, or that the bound is too
large, and the root counts as set up all the same. -/
theorem new_builds_unless_level_is_layout (settings : Settings) (root : RootLog) :
    ((∃ host after, Host.new settings root = .ok host after) ↔
        root.Takes settings.logLevel ∧ settings.journalSize < Reading.wordBound) ∧
      (∀ host after, Host.new settings root = .ok host after →
        host.Fresh settings ∧ RootLog.SetUp settings.logLevel root after) ∧
      (root.configured = false → Text.upper settings.logLevel = "BASIC_FORMAT" →
        Host.new settings root = .error .levelIsLayout ⟨true, root.threshold⟩) ∧
      (root.configured = false → Text.upper settings.logLevel = "_STYLES" →
        Host.new settings root = .error .levelIsLayoutTable ⟨true, root.threshold⟩) ∧
      (root.Takes settings.logLevel → Reading.wordBound ≤ settings.journalSize → ∃ after,
        Host.new settings root = .error .boundTooLarge after ∧
          RootLog.SetUp settings.logLevel root after) ∧
      ∀ later, (Host.new later).after ((Host.new settings).after root) =
        (Host.new settings).after root := by
  refine ⟨?_, ?_, ?_, ?_, ?_, fun later => after_new_again settings later root⟩
  · simp only [new_eq_ok_iff, ← RootLog.exists_configure_iff]
    constructor
    · rintro ⟨host, after, done, fits, -⟩
      exact ⟨⟨after, done⟩, fits⟩
    · rintro ⟨⟨after, done⟩, fits⟩
      exact ⟨_, after, done, fits, rfl⟩
  · intro host after built
    obtain ⟨done, -, rfl⟩ := new_eq_ok_iff.1 built
    exact ⟨fresh_atRest settings, RootLog.setUp_of_configure done⟩
  · intro unconfigured named
    rw [new_of_unconfigured unconfigured, Threshold.ofText_of_layout named]
  · intro unconfigured named
    rw [new_of_unconfigured unconfigured, Threshold.ofText_of_layoutTable named]
  · intro takes large
    obtain ⟨after, done⟩ := RootLog.exists_configure_iff.2 takes
    refine ⟨after, ?_, RootLog.setUp_of_configure done⟩
    rw [new_apply, done, assemble_eq, if_neg (Int.not_lt.2 large)]
    rfl

/-- Settings that are not given are loaded. If that fails, the log is not set up. -/
theorem create_none (about : String → Concern) (environment : Environment) (root : RootLog) :
    Host.create about environment none root =
      match Settings.load about environment (.object []) with
      | .ok settings => Host.new settings root
      | .error failure => .error failure root := by
  rw [Host.create, Attempt.bind_apply]
  cases Settings.load about environment (.object []) <;> rfl

/-- A process whose environment asks for a level by this name fails to build its first host, though
the settings are good ones and the name is not that of a level. -/
theorem create_fails_at_name_of_layout :
    let about : String → Concern := fun _ => .setting
    let environment : Environment := [("CACHEBINDER_LOG_LEVEL", "BASIC_FORMAT")]
    let settings : Settings := ⟨false, true, 1, 1000, "BASIC_FORMAT", by decide⟩
    Settings.load about environment (.object []) = .ok settings ∧
      (∀ threshold, ¬Threshold.Names settings.logLevel threshold) ∧
      Host.create about environment none .initial = .error .levelIsLayout ⟨true, 30⟩ := by
  intro about environment settings
  have named : Text.upper settings.logLevel = Threshold.layoutName := by decide +kernel
  have loads : Settings.load about environment (.object []) = .ok settings := by decide +kernel
  refine ⟨loads, fun threshold names => ?_, ?_⟩
  · rw [Threshold.Names, named] at names
    exact Threshold.layoutName_not_mem threshold names
  · rw [create_none, loads]
    dsimp only
    rw [new_of_unconfigured rfl, Threshold.ofText_of_layout named]
    rfl

end Host

end Invalidation
