import Lifecycle.Config

/-!
# Files, options and the effective configuration

A machine is configured by a file, or by the defaults if no file is named, and by options that take
the place of single values. The outcome is checked, and with it whether the machine starts is settled
by the effective configuration alone, provided that the file is sound.

A file is checked on its own before any option is applied. A file with a fault is therefore refused
whatever the options are, also where an option replaces the faulty value and the effective
configuration has no fault at all.

Nothing here depends on how texts are read. The reader is a parameter, and a file counts as the
configuration that the reader makes of its text.
-/

namespace Lifecycle

/-! ### Configurations without faults -/

namespace MachineConfig

variable {config other : MachineConfig}

/-- There is some memory, and every pid fits in the integers that programs receive. -/
structure Runnable (config : MachineConfig) : Prop where
  pages_pos : 0 < config.physPages
  maxPid_le : config.maxPid ≤ pidLimit

theorem runnable_default : Runnable {} := ⟨by decide, by decide⟩

theorem fault?_eq_none_iff : config.fault? = none ↔ config.Runnable := by
  unfold fault?
  constructor
  · intro faultless
    split at faultless
    · cases faultless
    · rename_i pages
      split at faultless
      · cases faultless
      · rename_i pids
        exact ⟨Nat.pos_of_ne_zero pages, Nat.le_of_not_lt pids⟩
  · rintro ⟨pages, pids⟩
    rw [if_neg (Nat.ne_of_gt pages), if_neg (Nat.not_lt.mpr pids)]

theorem validate_of_runnable (runnable : config.Runnable) : config.validate = .ok config := by
  rw [validate, fault?_eq_none_iff.mpr runnable]

theorem validate_of_not_runnable (faulty : ¬config.Runnable) :
    ∃ fault, config.fault? = some fault ∧ config.validate = .error (.ofFault fault) := by
  cases found : config.fault? with
  | none => exact absurd (fault?_eq_none_iff.mp found) faulty
  | some fault => exact ⟨fault, rfl, by rw [validate, found]⟩

theorem validate_eq_ok_iff : config.validate = .ok other ↔ config.Runnable ∧ other = config := by
  by_cases runnable : config.Runnable
  · rw [validate_of_runnable runnable]
    simp [runnable, eq_comm]
  · rcases validate_of_not_runnable runnable with ⟨fault, _, refused⟩
    simp [refused, runnable]

end MachineConfig

/-! ### Options in place of values -/

/-- The new value is the given one, if there is one, and else the old one. -/
structure Replaces {α : Type} (given : Option α) (old new : α) : Prop where
  of_some : ∀ value, given = some value → new = value
  of_none : given = none → new = old

theorem replaces_iff {α : Type} {given : Option α} {old new : α} :
    Replaces given old new ↔ new = given.getD old := by
  cases given with
  | none => exact ⟨fun replaces => replaces.of_none rfl, fun same => ⟨nofun, fun _ => same⟩⟩
  | some value =>
      refine ⟨fun replaces => replaces.of_some value rfl, fun same => ⟨?_, nofun⟩⟩
      intro other given
      exact same.trans (Option.some.inj given)

/-- The configuration is the base with the given values in place, and nothing else changed. -/
structure Overrides.Overlays (overrides : Overrides) (base config : MachineConfig) : Prop where
  physPages : Replaces overrides.physPages base.physPages config.physPages
  maxPid : Replaces overrides.maxPid base.maxPid config.maxPid
  input : Replaces overrides.input base.input config.input
  stackPages : config.stackPages = base.stackPages

theorem Overrides.overlays_iff {overrides : Overrides} {base config : MachineConfig} :
    overrides.Overlays base config ↔ config = overrides.apply base := by
  constructor
  · rintro ⟨pages, pid, input, stack⟩
    rw [replaces_iff] at pages pid input
    cases config
    simp_all [apply]
  · rintro rfl
    exact ⟨replaces_iff.mpr rfl, replaces_iff.mpr rfl, replaces_iff.mpr rfl, rfl⟩

namespace MachineConfig

/-! ### From a file and options to a configuration -/

/-- What is configured before any option: the values of the file, or the defaults without a file. -/
inductive Describes (parse : String → Except String MachineConfig) :
    Option ConfigFile → MachineConfig → Prop
  | defaults : Describes parse none {}
  | file {path text : String} {config : MachineConfig} (parses : parse text = .ok config) :
      Describes parse (some ⟨path, some text⟩) config

variable {parse : String → Except String MachineConfig} {source : Option ConfigFile}
  {base config : MachineConfig}

/-- The checks of the file and of the outcome, one after the other. -/
theorem resolve_of_describes (describes : Describes parse source base) (overrides : Overrides) :
    resolve source overrides parse =
      base.validate >>= fun checked => (overrides.apply checked).validate := by
  cases describes with
  | defaults => rfl
  | file parses => simp only [resolve, load, ofFile, parses]

theorem resolve_of_runnable (describes : Describes parse source base) (runnable : base.Runnable)
    (overrides : Overrides) : resolve source overrides parse = (overrides.apply base).validate := by
  rw [resolve_of_describes describes, validate_of_runnable runnable]
  rfl

theorem resolve_of_not_runnable (describes : Describes parse source base)
    (faulty : ¬base.Runnable) (overrides : Overrides) :
    ∃ fault, base.fault? = some fault ∧
      resolve source overrides parse = .error (.ofFault fault) := by
  rcases validate_of_not_runnable faulty with ⟨fault, found, refused⟩
  refine ⟨fault, found, ?_⟩
  rw [resolve_of_describes describes, refused]
  rfl

/-- How a base and the values that override it are resolved. -/
structure Resolves (parse : String → Except String MachineConfig) (source : Option ConfigFile)
    (base : MachineConfig) (overrides : Overrides) : Prop where
  /-- The outcome is the overlay, if neither the base nor the overlay has a fault. -/
  ok_iff : ∀ config, resolve source overrides parse = .ok config ↔
    base.Runnable ∧ overrides.Overlays base config ∧ config.Runnable
  /-- With a sound base, the effective configuration decides alone. -/
  effective : base.Runnable → ∀ config, overrides.Overlays base config →
    resolve source overrides parse = config.validate
  unfiled : source = none → base.Runnable
  /-- A base with a fault is refused for it, whatever overrides it. -/
  refused : ¬base.Runnable → ∃ fault, base.fault? = some fault ∧
    resolve source overrides parse = .error (.ofFault fault)

/--
Options override the values of every file that is sound on its own, and those of the defaults: the
outcome is the overlay, and it is accepted exactly if it has no fault. A file with a fault is refused,
whatever the options are. All this holds for every way to read the text of a file.
-/
theorem options_override_sound_files (describes : Describes parse source base)
    (overrides : Overrides) : Resolves parse source base overrides where
  ok_iff config := by
    by_cases runnable : base.Runnable
    · rw [resolve_of_runnable describes runnable, validate_eq_ok_iff, Overrides.overlays_iff]
      constructor
      · rintro ⟨faultless, rfl⟩
        exact ⟨runnable, rfl, faultless⟩
      · rintro ⟨_, rfl, faultless⟩
        exact ⟨faultless, rfl⟩
    · rcases resolve_of_not_runnable describes runnable overrides with ⟨fault, _, refused⟩
      simp [refused, runnable]
  effective runnable config overlays := by
    rw [resolve_of_runnable describes runnable, Overrides.overlays_iff.mp overlays]
  unfiled none := by
    subst none
    cases describes
    exact runnable_default
  refused faulty := resolve_of_not_runnable describes faulty overrides

/-- A reader that knows just two texts. -/
def parseKnown (text : String) : Except String MachineConfig :=
  if text = "phys_pages = 5\ninput = \"f\"" then .ok { physPages := 5, input := "f" }
  else if text = "phys_pages = 0" then .ok { physPages := 0 }
  else .error "unknown text"

/-- The reader of this library agrees on both. -/
example : ["phys_pages = 5\ninput = \"f\"", "phys_pages = 0"].map (Except.toOption ∘ read) =
    ["phys_pages = 5\ninput = \"f\"", "phys_pages = 0"].map (Except.toOption ∘ parseKnown) := by
  decide +kernel

/-- An option replaces the pages of the file, and the input of the file stays. -/
theorem options_override_sound_files_beside_input :
    Describes parseKnown (some ⟨"machine.toml", some "phys_pages = 5\ninput = \"f\""⟩)
        { physPages := 5, input := "f" } ∧
      resolve (some ⟨"machine.toml", some "phys_pages = 5\ninput = \"f\""⟩)
        { physPages := some 6 } parseKnown = .ok { physPages := 6, input := "f" } := by
  have describes :
      Describes parseKnown (some ⟨"machine.toml", some "phys_pages = 5\ninput = \"f\""⟩)
        { physPages := 5, input := "f" } := .file rfl
  refine ⟨describes, ?_⟩
  apply ((options_override_sound_files describes { physPages := some 6 }).ok_iff _).mpr
  exact ⟨⟨by decide, by decide⟩, Overrides.overlays_iff.mpr rfl, ⟨by decide, by decide⟩⟩

/-- A file without memory is refused, although an option gives the machine six pages. -/
theorem faulty_file_is_not_mended :
    Describes parseKnown (some ⟨"machine.toml", some "phys_pages = 0"⟩) { physPages := 0 } ∧
      Overrides.Overlays { physPages := some 6 } { physPages := 0 } { physPages := 6 } ∧
      validate { physPages := 6 } = .ok { physPages := 6 } ∧
      resolve (some ⟨"machine.toml", some "phys_pages = 0"⟩) { physPages := some 6 } parseKnown =
        .error (.ofFault .noPages) := by
  have describes : Describes parseKnown (some ⟨"machine.toml", some "phys_pages = 0"⟩)
      { physPages := 0 } := .file rfl
  refine ⟨describes, Overrides.overlays_iff.mpr rfl, rfl, ?_⟩
  rw [resolve_of_describes describes]
  rfl

end MachineConfig

end Lifecycle
