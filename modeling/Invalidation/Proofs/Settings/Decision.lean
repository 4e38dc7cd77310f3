import Mathlib.Data.List.Nodup
import Invalidation.Proofs.Text.Casing
import Invalidation.Settings

/-!
# What decides a setting

A setting is decided by the first argument for it, or else by its variable in the environment, or
else by its default (`Settings.Decides`). In an environment with no more than one variable for each
setting this is exactly one raw value (`Settings.decides_iff`), and only the variables of settings
without an argument have an influence on it (`Settings.chosen_congr`).
-/

set_option autoImplicit false

namespace Invalidation

namespace SettingName

/-- The name of the variable of a setting, in lower case. -/
def variableName (setting : SettingName) : String := "cachebinder_" ++ code setting

def default : SettingName → Raw
  | .supportTeardown => .bool false
  | .batchInvalidation => .bool true
  | .clusterNodes => .int 1
  | .journalSize => .int 1000
  | .logLevel => .text "INFO"

theorem comparable_eq_variableName (setting : SettingName) :
    Lookup.standard.comparable (Lookup.standard.beginning ++ code setting) =
      setting.variableName := by
  refine (Text.lower_of_ascii ?_).trans ?_
  · cases setting <;> decide +kernel
  · cases setting <;> decide +kernel

end SettingName

variable {environment other : Environment} {arguments : Fields} {setting : SettingName} {raw : Raw}

namespace Environment

/-- The variable of the setting has the text. Letter case does not matter in its name. -/
def Tells (environment : Environment) (setting : SettingName) (text : String) : Prop :=
  ∃ name, (name, text) ∈ environment ∧ Text.lower name = setting.variableName

/-- No setting has more than one variable. -/
def Unambiguous (environment : Environment) : Prop :=
  ∀ setting : SettingName, ∀ entry ∈ environment, ∀ other ∈ environment,
    Text.lower entry.1 = setting.variableName → Text.lower other.1 = setting.variableName →
      entry = other

theorem unambiguous_of_nodup
    (distinct : (environment.map fun entry => Text.lower entry.1).Nodup) :
    environment.Unambiguous := by
  intro setting entry listed other listed' named named'
  exact List.inj_on_of_nodup_map distinct listed listed' (named.trans named'.symm)

end Environment

namespace Lookup

theorem find?_standard (environment : Environment) (setting : SettingName) :
    standard.find? environment (code setting) =
      (environment.reverse.find? fun entry => Text.lower entry.1 == setting.variableName).map
        fun entry => .text entry.2 := by
  unfold find?
  rw [setting.comparable_eq_variableName]
  simp [standard, comparable]

theorem find?_eq_none_iff :
    standard.find? environment (code setting) = none ↔
      ∀ text, ¬ environment.Tells setting text := by
  rw [find?_standard, Option.map_eq_none_iff, List.find?_eq_none]
  constructor
  · rintro unnamed text ⟨name, listed, named⟩
    exact unnamed (name, text) (List.mem_reverse.2 listed) (beq_iff_eq.2 named)
  · intro untold entry listed named
    exact untold entry.2 ⟨entry.1, List.mem_reverse.1 listed, beq_iff_eq.1 named⟩

theorem mem_of_find? {entry : String × String}
    (found : (environment.reverse.find? fun entry =>
      Text.lower entry.1 == setting.variableName) = some entry) :
    entry ∈ environment ∧ Text.lower entry.1 = setting.variableName :=
  ⟨List.mem_reverse.1 (List.mem_of_find?_eq_some found), by simpa using List.find?_some found⟩

/-- The last variable of a setting is the only one. -/
theorem find?_eq_some_iff (single : environment.Unambiguous) :
    standard.find? environment (code setting) = some raw ↔
      ∃ text, environment.Tells setting text ∧ raw = .text text := by
  rw [find?_standard, Option.map_eq_some_iff]
  constructor
  · rintro ⟨entry, found, rfl⟩
    obtain ⟨listed, named⟩ := mem_of_find? found
    exact ⟨entry.2, ⟨entry.1, listed, named⟩, rfl⟩
  · rintro ⟨text, ⟨name, listed, named⟩, rfl⟩
    cases found : environment.reverse.find? fun entry =>
        Text.lower entry.1 == setting.variableName with
    | none =>
      exact absurd (beq_iff_eq.2 named)
        (List.find?_eq_none.1 found (name, text) (List.mem_reverse.2 listed))
    | some entry =>
      obtain ⟨last, alike⟩ := mem_of_find? found
      obtain rfl := single setting entry last (name, text) listed alike named
      exact ⟨_, rfl, rfl⟩

end Lookup

namespace Settings

/-- The first argument for the setting has the raw value. Letter case does not matter in its
name. -/
def Gives (arguments : Fields) (setting : SettingName) (raw : Raw) : Prop :=
  ∃ front name back, arguments = front ++ (name, raw) :: back ∧ Text.lower name = code setting ∧
    ∀ argument ∈ front, Text.lower argument.1 ≠ code setting

inductive Decides (environment : Environment) (arguments : Fields) (setting : SettingName) :
    Raw → Prop
  | argument {raw : Raw} (given : Gives arguments setting raw) :
    Decides environment arguments setting raw
  | environment {text : String} (ungiven : ∀ raw, ¬ Gives arguments setting raw)
    (told : environment.Tells setting text) : Decides environment arguments setting (.text text)
  | default (ungiven : ∀ raw, ¬ Gives arguments setting raw)
    (untold : ∀ text, ¬ environment.Tells setting text) :
    Decides environment arguments setting setting.default

theorem named?_eq_some_iff :
    named? (code setting) arguments = some raw ↔ Gives arguments setting raw := by
  simp only [named?, Option.map_eq_some_iff, List.find?_eq_some_iff_append, Gives]
  constructor
  · rintro ⟨⟨name, value⟩, ⟨named, front, back, same, others⟩, rfl⟩
    exact ⟨front, name, back, same, beq_iff_eq.1 named, by simpa using others⟩
  · rintro ⟨front, name, back, same, named, others⟩
    exact ⟨(name, raw), ⟨beq_iff_eq.2 named, front, back, same, by simpa using others⟩, rfl⟩

theorem named?_eq_none_iff :
    named? (code setting) arguments = none ↔ ∀ raw, ¬ Gives arguments setting raw := by
  simp only [Option.eq_none_iff_forall_ne_some, ne_eq, named?_eq_some_iff]

def chosen (environment : Environment) (arguments : Fields) (setting : SettingName) : Raw :=
  (decided .standard environment arguments setting).getD setting.default

theorem decides_chosen (single : environment.Unambiguous) (arguments : Fields)
    (setting : SettingName) :
    Decides environment arguments setting (chosen environment arguments setting) := by
  unfold chosen decided
  cases given : named? (code setting) arguments with
  | some raw => exact .argument (named?_eq_some_iff.1 given)
  | none =>
    have ungiven := named?_eq_none_iff.1 given
    cases told : Lookup.standard.find? environment (code setting) with
    | some raw =>
      obtain ⟨text, said, rfl⟩ := (Lookup.find?_eq_some_iff single).1 told
      exact .environment ungiven said
    | none => exact .default ungiven (Lookup.find?_eq_none_iff.1 told)

/-- Exactly one raw value decides a setting. -/
theorem decides_iff (single : environment.Unambiguous) :
    Decides environment arguments setting raw ↔ raw = chosen environment arguments setting := by
  constructor
  · intro decides
    unfold chosen decided
    cases decides with
    | argument given =>
      rw [named?_eq_some_iff.2 given]
      rfl
    | environment ungiven told =>
      rw [named?_eq_none_iff.2 ungiven, (Lookup.find?_eq_some_iff single).2 ⟨_, told, rfl⟩]
      rfl
    | default ungiven untold =>
      rw [named?_eq_none_iff.2 ungiven, Lookup.find?_eq_none_iff.2 untold]
      rfl
  · rintro rfl
    exact decides_chosen single arguments setting

/-- The two environments have the same variables of settings without an argument. -/
def Agree (arguments : Fields) (environment other : Environment) : Prop :=
  ∀ setting : SettingName, (∀ raw, ¬ Gives arguments setting raw) →
    ∀ entry : String × String, Text.lower entry.1 = setting.variableName →
      (entry ∈ environment ↔ entry ∈ other)

/-- Variables of settings with an argument do not matter, and neither do those of no setting. -/
theorem chosen_congr (single : environment.Unambiguous) (unmixed : other.Unambiguous)
    (agree : Agree arguments environment other) :
    chosen environment arguments = chosen other arguments := by
  funext setting
  refine (decides_iff unmixed).1 ?_
  have tells : (∀ raw, ¬ Gives arguments setting raw) →
      ∀ text, environment.Tells setting text ↔ other.Tells setting text := by
    intro ungiven text
    refine exists_congr fun name => and_congr_left fun named => ?_
    exact agree setting ungiven (name, text) named
  have decides := decides_chosen single arguments setting
  generalize chosen environment arguments setting = value at decides
  cases decides with
  | argument given => exact .argument given
  | environment ungiven told => exact .environment ungiven ((tells ungiven _).1 told)
  | default ungiven untold =>
    exact .default ungiven fun text told => untold text ((tells ungiven text).2 told)

end Settings

end Invalidation
