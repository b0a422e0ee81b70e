import GoldenRun.Settings.Source
import Mathlib

/-!
# Which source of settings counts

The environment comes before the file of settings, and the file before the defaults. Only the file
can fail, and it fails whatever else is set. The path of the simulator follows the root that counts
in the end. A file that is named outside the environment stands for the one that the environment
names.
-/

namespace GoldenRun

/-- A variable is set to a value that is not blank. -/
def Environment.Sets (environment : Environment) (name value : String) : Prop :=
  environment name = some value ∧ value ≠ ""

/-- An environment with one variable set anew. -/
def Environment.replace (environment : Environment) (name value : String) : Environment :=
  fun other => if other = name then some value else environment other

variable {environment : Environment} {name value : String}

theorem Environment.nonempty?_eq_some_iff :
    environment.nonempty? name = some value ↔ environment.Sets name value := by
  unfold nonempty? Sets
  rw [Option.filter_eq_some_iff, bne_iff_ne]

theorem Environment.nonempty?_eq_none_iff :
    environment.nonempty? name = none ↔ ∀ value, ¬environment.Sets name value := by
  rw [Option.eq_none_iff_forall_ne_some]
  exact forall_congr' fun value => not_congr nonempty?_eq_some_iff

theorem Environment.nonempty?_replace_of_ne {other : String} (h : other ≠ name) :
    (environment.replace name value).nonempty? other = environment.nonempty? other := by
  unfold nonempty? replace
  rw [if_neg h]

namespace Settings

/-- What the environment replaces settings by: its root and its simulator where it sets them, and
nothing else. -/
structure Replaced (environment : Environment) (base settings : Settings) : Prop where
  root : ∀ value, environment.Sets rootVariable value → settings.root = value
  root_base : (∀ value, ¬environment.Sets rootVariable value) → settings.root = base.root
  path : ∀ value, environment.Sets simulatorVariable value → settings.simulator.path = some value
  path_base : (∀ value, ¬environment.Sets simulatorVariable value) →
    settings.simulator.path = base.simulator.path
  quiet : settings.simulator.quiet = base.simulator.quiet
  memorySize : settings.simulator.memorySize = base.simulator.memorySize
  limit : settings.simulator.limit = base.simulator.limit
  toolchain : settings.toolchain = base.toolchain
  lengthRule : settings.lengthRule = base.lengthRule
  keepArtifacts : settings.keepArtifacts = base.keepArtifacts

/-- What settings start from: the file that the environment names, or the defaults. -/
inductive StartsFrom (disk : Disk) (environment : Environment) : Settings → Prop
  | file {path base} : environment.Sets fileVariable path → load disk path = .ok base →
      StartsFrom disk environment base
  | defaults : (∀ path, ¬environment.Sets fileVariable path) → StartsFrom disk environment {}

variable {disk : Disk} {base settings : Settings} {path : Path}

theorem replaced_override (environment : Environment) (base : Settings) :
    Replaced environment base (override environment base) := by
  constructor
  · intro value hvalue
    simp [override, Environment.nonempty?_eq_some_iff.mpr hvalue]
  · intro hnone
    simp [override, Environment.nonempty?_eq_none_iff.mpr hnone]
  · intro value hvalue
    simp [override, Environment.nonempty?_eq_some_iff.mpr hvalue]
  · intro hnone
    simp [override, Environment.nonempty?_eq_none_iff.mpr hnone]
  all_goals rfl

theorem override_override (environment : Environment) (base : Settings) :
    override environment (override environment base) = override environment base := by
  unfold override
  cases environment.nonempty? rootVariable <;> cases environment.nonempty? simulatorVariable <;> rfl

theorem override_replace_file (environment : Environment) (path : Path) :
    override (environment.replace fileVariable path) = override environment := by
  funext base
  unfold override
  rw [Environment.nonempty?_replace_of_ne (by decide),
    Environment.nonempty?_replace_of_ne (by decide)]

theorem ofEnvironment_of_sets (h : environment.Sets fileVariable path) :
    ofEnvironment disk environment = (load disk path).map (override environment) := by
  unfold ofEnvironment
  rw [Environment.nonempty?_eq_some_iff.mpr h]

theorem ofEnvironment_of_not_sets (h : ∀ path, ¬environment.Sets fileVariable path) :
    ofEnvironment disk environment = .ok (override environment {}) := by
  unfold ofEnvironment
  rw [Environment.nonempty?_eq_none_iff.mpr h]

theorem ofEnvironment_eq_error_iff {failure : Failure} :
    ofEnvironment disk environment = .error failure ↔
      ∃ path, environment.Sets fileVariable path ∧ load disk path = .error failure := by
  by_cases hset : ∃ path, environment.Sets fileVariable path
  · obtain ⟨path, hpath⟩ := hset
    have hunique : ∀ other, environment.Sets fileVariable other → other = path := by
      intro other hother
      exact Option.some.inj (hother.1.symm.trans hpath.1)
    rw [ofEnvironment_of_sets hpath]
    constructor
    · intro h
      cases hload : load disk path with
      | error other =>
        rw [hload] at h
        exact ⟨path, hpath, hload.trans h⟩
      | ok base =>
        rw [hload] at h
        contradiction
    · rintro ⟨other, hother, hload⟩
      obtain rfl := hunique other hother
      rw [hload]
      rfl
  · push Not at hset
    rw [ofEnvironment_of_not_sets hset]
    constructor
    · intro h
      contradiction
    · rintro ⟨path, hpath, -⟩
      exact absurd hpath (hset path)

theorem exists_base_of_ofEnvironment (h : ofEnvironment disk environment = .ok settings) :
    ∃ base, StartsFrom disk environment base ∧ settings = override environment base := by
  by_cases hset : ∃ path, environment.Sets fileVariable path
  · obtain ⟨path, hpath⟩ := hset
    rw [ofEnvironment_of_sets hpath] at h
    cases hload : load disk path with
    | error failure =>
      rw [hload] at h
      contradiction
    | ok base =>
      rw [hload] at h
      exact ⟨base, .file hpath hload, (Except.ok.inj h).symm⟩
  · push Not at hset
    rw [ofEnvironment_of_not_sets hset] at h
    exact ⟨{}, .defaults hset, (Except.ok.inj h).symm⟩

theorem choose_some_eq (hpath : path ≠ "") :
    choose disk environment (some path) =
      ofEnvironment disk (environment.replace fileVariable path) := by
  have hset : (environment.replace fileVariable path).Sets fileVariable path := ⟨if_pos rfl, hpath⟩
  rw [ofEnvironment_of_sets hset, override_replace_file]
  rfl

/-- The environment fails to give settings exactly if the file that it names cannot be loaded, and
with the failure of the file. Otherwise it gives those of the file, or the defaults, with what it
replaces, and the simulator is the one that is set or the one below the root that counts in the end.
To replace them once more changes nothing. Naming a file elsewhere is naming it in the
environment. -/
theorem sources_in_order (disk : Disk) (environment : Environment) :
    (∀ failure, ofEnvironment disk environment = .error failure ↔
      ∃ path, environment.Sets fileVariable path ∧ load disk path = .error failure) ∧
    (∀ settings, ofEnvironment disk environment = .ok settings →
      (∃ base, StartsFrom disk environment base ∧ Replaced environment base settings) ∧
      (∀ path, settings.simulator.path = some path → settings.simulatorPath = path) ∧
      (settings.simulator.path = none →
        settings.simulatorPath = settings.root.join "target/release/riscv-sim")) ∧
    (∀ base, override environment (override environment base) = override environment base) ∧
    (({} : Settings).root = "." ∧ ({} : Settings).simulator.path = none) ∧
    ∀ path, path ≠ "" → choose disk environment (some path) =
      ofEnvironment disk (environment.replace fileVariable path) := by
  refine ⟨fun failure => ofEnvironment_eq_error_iff, fun settings hsettings => ?_,
    override_override environment, ⟨rfl, rfl⟩, fun path => choose_some_eq⟩
  obtain ⟨base, hbase, rfl⟩ := exists_base_of_ofEnvironment hsettings
  refine ⟨⟨base, hbase, replaced_override environment base⟩, fun path hpath => ?_, fun hnone => ?_⟩
  · simp [simulatorPath, hpath]
  · simp [simulatorPath, hnone, builtSimulator]

end Settings

end GoldenRun
