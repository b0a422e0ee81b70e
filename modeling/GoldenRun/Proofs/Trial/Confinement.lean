import GoldenRun.Proofs.Job.Trace
import GoldenRun.Proofs.Trial.Abreast
import GoldenRun.Proofs.Trial.ImageFile

/-!
# What the requests of a test touch

A test asks to write and to remove no files but those that are made for it, and to make no
directories but those of such files. If its tools write nothing but their outputs, that is all that
changes by its requests, so sources and golden results stay as they are, those of other tests
included.
-/

namespace GoldenRun

/-- The place that a path below a root spells: where the root leads, and on from there by the names
that follow the root in the path. -/
def Disk.Spells (disk : Disk) (root path : Path) (place : Place) : Prop :=
  ∃ top names, disk.Arrives root top ∧ path.steps = root.steps ++ names ∧ place = top ++ names

/-- A step touches nothing but given files: it asks to make, to write or to remove one of them, or
to make the directory of one, and what has changed by it are such files, and directories of them
that were missing. -/
structure Step.Within (spells : Path → Place → Prop) (paths : List Path) (step : Step) : Prop where
  created : ∀ path, step.request = .createFile path → path ∈ paths
  removed : ∀ path, step.request = .removeFile path → path ∈ paths
  made : ∀ directory, step.request = .makeDirectories directory →
    ∃ path ∈ paths, path.directory? = some directory
  written : ∀ place data, step.request = .write place data → ∃ path ∈ paths, spells path place
  printed : ∀ command place, step.request = .launch command → command.output = some place →
    ∃ path ∈ paths, spells path place
  changed : ∀ place, step.after.at? place ≠ step.before.at? place →
    (∃ path ∈ paths, spells path place) ∨
      (step.before.at? place = none ∧ step.after.at? place = some .directory ∧
        ∃ path ∈ paths, ∃ name, spells path (place ++ [name]))

theorem Step.within_isFile {spells : Path → Place → Prop} {paths : List Path} (path : Path)
    (disk : Disk) : Step.Within spells paths ⟨.isFile path, disk, disk⟩ := by
  constructor <;> intros <;> contradiction

namespace Trial

namespace Plot

variable {p : Plot} {plots : Set Plot} {rig : Rig} {machine : Machine} {disk start before after :
  Disk} {root : Path} {top place : Place} {part : Part} {sourced : Prop} {known : Set Path}
  {r : Request}

theorem mem_generated_iff {path : Path} :
    path ∈ p.files.generated ↔ ∃ part : Part, part.IsGenerated ∧ path = p.path part := by
  unfold Files.generated
  rw [files_object, files_listing, files_image, files_result]
  simp only [List.mem_cons, List.not_mem_nil, or_false]
  constructor
  · rintro (rfl | rfl | rfl | rfl)
    · exact ⟨.object, trivial, rfl⟩
    · exact ⟨.listing, trivial, rfl⟩
    · exact ⟨.image, trivial, rfl⟩
    · exact ⟨.result, trivial, rfl⟩
  · rintro ⟨part, hpart, rfl⟩
    cases part with
    | source => exact hpart.elim
    | expected => exact hpart.elim
    | _ => simp

theorem path_mem_generated (hpart : part.IsGenerated) : p.path part ∈ p.files.generated :=
  mem_generated_iff.mpr ⟨part, hpart, rfl⟩

theorem spells_place (harrives : start.Arrives p.root top) (part : Part) :
    start.Spells p.root (p.path part) (p.place top part) :=
  ⟨top, _, harrives, p.steps_path part, rfl⟩

theorem Alters.spelled (h : p.Alters top before after) (harrives : start.Arrives p.root top)
    (hne : after.at? place ≠ before.at? place) :
    (∃ path ∈ p.files.generated, start.Spells p.root path place) ∨
      (before.at? place = none ∧ after.at? place = some .directory ∧
        ∃ path ∈ p.files.generated, ∃ name, start.Spells p.root path (place ++ [name])) := by
  rcases h.entries place with hsame | ⟨hfile, -⟩ | ⟨hshelf, hnone, hmade⟩
  · exact absurd hsame hne
  · obtain ⟨q, hq, part, hpart, rfl⟩ := hfile
    obtain rfl := Set.mem_singleton_iff.mp hq
    exact Or.inl ⟨_, path_mem_generated hpart, spells_place harrives part⟩
  · obtain ⟨q, hq, part, hapart, rfl⟩ := hshelf
    obtain rfl := Set.mem_singleton_iff.mp hq
    refine Or.inr ⟨hnone, hmade, _, path_mem_generated hapart.isGenerated, q.leaf part, ?_⟩
    rw [shelfPlace_append_leaf]
    exact spells_place harrives part

/-- A path of the test leads to its own place, if it leads anywhere. -/
theorem On.eq_place_of_site? (hon : p.On disk top) (hsite : disk.site? (p.path part) = some place) :
    place = p.place top part := by
  rw [hon.site? part] at hsite
  obtain ⟨-, -, rfl⟩ := Option.map_eq_some_iff.mp hsite
  rfl

theorem On.makes_of_site? (hon : p.On disk top)
    (hvaries : Disk.Varies {place | disk.site? (p.path part) = some place} ∅ disk after) :
    p.Makes top part disk after :=
  Disk.Varies.mono hvaries (fun _ hsite => hon.eq_place_of_site? hsite) (Set.empty_subset _)

theorem On.alters_answer (hon : p.On disk top)
    (hshelf : disk.at? (p.shelfPlace top .source) = some .directory)
    (hallows : p.Allows rig top sourced known r)
    (hlaunch : ∀ command, r = .launch command → Confined machine rig p.files (command, disk)) :
    p.Alters top disk (machine.answer r disk).2 := by
  cases r with
  | isFile path => exact .refl p top disk
  | openFile path => exact .refl p top disk
  | read place => exact .refl p top disk
  | makeDirectories path =>
    obtain ⟨-, part, hpart, rfl⟩ := hallows
    exact (hon.makes_makeDirectories hshelf hpart).alters hpart
  | createFile path =>
    obtain ⟨-, part, hpart, -, rfl⟩ := hallows
    exact alters_of_sets (hon.create machine part).2 hpart
  | removeFile path =>
    obtain ⟨-, part, hpart, -, rfl⟩ := hallows
    exact alters_of_sets (hon.remove machine part).2 hpart
  | write place data =>
    obtain ⟨-, part, hpart, -, rfl⟩ := hallows
    exact alters_of_sets (Disk.sets_store place_ne_nil data) hpart
  | launch command =>
    obtain ⟨-, hcommand⟩ := hallows
    have hconfined := hlaunch command rfl
    rcases hcommand with rfl | rfl | ⟨rfl, -, -⟩
    · have hmakes : p.Makes top .object disk _ := hon.makes_of_site? (hconfined.assembler rfl)
      exact hmakes.alters trivial
    · apply (hconfined.disassembler _ rfl).mono _ (Set.empty_subset _)
      rintro place rfl
      exact ⟨p, rfl, .listing, trivial, rfl⟩
    · have hmakes : p.Makes top .result disk _ := hon.makes_of_site? (hconfined.simulator rfl)
      exact hmakes.alters trivial

/-- What a test asks for touches nothing but what is made for it. -/
theorem On.within (hon : p.On disk top) (harrives : start.Arrives p.root top)
    (hshelf : disk.at? (p.shelfPlace top .source) = some .directory)
    (hallows : p.Allows rig top sourced known r)
    (hlaunch : ∀ command, r = .launch command → Confined machine rig p.files (command, disk)) :
    Step.Within (start.Spells p.root) p.files.generated ⟨r, disk, (machine.answer r disk).2⟩ where
  created := by
    rintro path rfl
    obtain ⟨-, part, hpart, -, rfl⟩ := hallows
    exact path_mem_generated hpart
  removed := by
    rintro path rfl
    obtain ⟨-, part, hpart, -, rfl⟩ := hallows
    exact path_mem_generated hpart
  made := by
    rintro directory rfl
    obtain ⟨-, part, hpart, rfl⟩ := hallows
    exact ⟨_, path_mem_generated hpart, p.directory?_path part⟩
  written := by
    rintro place data rfl
    obtain ⟨-, part, hpart, -, rfl⟩ := hallows
    exact ⟨_, path_mem_generated hpart, spells_place harrives part⟩
  printed := by
    rintro command place rfl houtput
    obtain ⟨-, rfl | rfl | ⟨rfl, -, -⟩⟩ := hallows
    · contradiction
    · obtain rfl := Option.some.inj houtput
      have hlisting : Part.IsGenerated .listing := trivial
      exact ⟨_, path_mem_generated hlisting, spells_place harrives .listing⟩
    · contradiction
  changed place hne := (hon.alters_answer hshelf hallows hlaunch).spelled harrives hne

end Plot

/-- The places of the files that are made for tests over a root. -/
def madeFor (start : Disk) (root : Path) (plots : Set Plot) : Set Place :=
  {place | ∃ top, start.Arrives root top ∧ place ∈ filesOf top plots}

/-- The places of the shelves that may have to be made for tests over a root. -/
def shelvedFor (start : Disk) (root : Path) (plots : Set Plot) : Set Place :=
  {place | ∃ top, start.Arrives root top ∧ place ∈ shelvesOf top plots}

/-- Nothing has changed since the start but what is made for tests over a root. -/
def Since (start : Disk) (root : Path) (plots : Set Plot) (disk : Disk) : Prop :=
  Disk.Varies (madeFor start root plots) (shelvedFor start root plots) start disk

section Since

variable {p : Plot} {plots : Set Plot} {disk start after : Disk} {root : Path} {top : Place}
  {part : Part}

theorem since_iff (harrives : start.Arrives root top) : Since start root plots disk ↔
    Disk.Varies (filesOf top plots) (shelvesOf top plots) start disk := by
  have hfiles : madeFor start root plots = filesOf top plots := by
    ext place
    constructor
    · rintro ⟨top', harrives', hplace⟩
      exact harrives.unique harrives' ▸ hplace
    · intro hplace
      exact ⟨top, harrives, hplace⟩
  have hshelves : shelvedFor start root plots = shelvesOf top plots := by
    ext place
    constructor
    · rintro ⟨top', harrives', hplace⟩
      exact harrives.unique harrives' ▸ hplace
    · intro hplace
      exact ⟨top, harrives, hplace⟩
  unfold Since
  rw [hfiles, hshelves]

theorem Since.not_arrives (h : Since start root plots disk) (hnot : ∀ top, ¬start.Arrives root top)
    (top : Place) : ¬disk.Arrives root top := by
  intro harrives
  apply hnot top
  have hsame : ∀ place, start.at? place = disk.at? place := by
    intro place
    apply (h.at?_eq _ _).symm
    · rintro ⟨top', harrives', -⟩
      exact hnot top' harrives'
    · rintro ⟨top', harrives', -⟩
      exact hnot top' harrives'
  apply harrives.keep h.home.symm
  constructor
  · intro place hat
    exact (hsame place).trans hat
  · intro place target hat
    exact (hsame place).trans hat

theorem Since.mono {plots' : Set Plot} (h : Since start root plots disk) (hle : plots ⊆ plots') :
    Since start root plots' disk := by
  apply Disk.Varies.mono h
  · rintro place ⟨top, harrives, hplace⟩
    exact ⟨top, harrives, filesOf_mono hle hplace⟩
  · rintro place ⟨top, harrives, hplace⟩
    exact ⟨top, harrives, shelvesOf_mono hle hplace⟩

theorem Since.alter (h : Since start p.root plots disk) (harrives : start.Arrives p.root top)
    (hp : p ∈ plots) (halters : p.Alters top disk after) : Since start p.root plots after := by
  rw [since_iff harrives] at h ⊢
  exact h.trans disjoint_files_shelves (halters.within hp)

theorem Plot.find?_of_not_arrives (hnot : ∀ top, ¬disk.Arrives p.root top) (part : Part) :
    disk.find? (p.path part) = none := by
  unfold Disk.find?
  cases hresolve : disk.resolve true (p.path part) with
  | error fault => rfl
  | ok found =>
    obtain ⟨top, harrives, -⟩ := Plot.exists_on_of_resolve hresolve
    exact absurd harrives (hnot top)

theorem Since.find?_eq (h : Since start p.root plots disk)
    (hlinkless : ∀ top, start.Arrives p.root top → start.Linkless top)
    (hpart : ¬part.IsGenerated) : disk.find? (p.path part) = start.find? (p.path part) := by
  by_cases harrives : ∃ top, start.Arrives p.root top
  · obtain ⟨top, harrives⟩ := harrives
    have hvaries := (since_iff harrives).mp h
    have hkept : Disk.Varies (filesOf top plots) (shelvesOf top plots) start start := .refl start
    -- Where the directories of the category are missing, nothing is found, neither then nor now.
    by_cases hon : p.On start top
    · have hapart : ¬part.IsApart := by
        cases part <;> simp_all [Part.IsGenerated, Part.IsApart]
      have hplace : disk.at? (p.place top part) = start.at? (p.place top part) :=
        hvaries.at?_eq (Plot.place_not_mem_files hpart) Plot.place_not_mem_shelves
      have hshelf : disk.at? (p.shelfPlace top part) = start.at? (p.shelfPlace top part) :=
        hvaries.at?_eq Plot.shelf_not_mem_files (Plot.shelf_not_mem_shelves hapart)
      exact hon.find?_congr (hon.vary hvaries) hshelf hplace
    · rw [Plot.find?_of_not_on harrives (hlinkless top harrives) hon hvaries,
        Plot.find?_of_not_on harrives (hlinkless top harrives) hon hkept]
  · have hnot : ∀ top, ¬start.Arrives p.root top := fun top harrives' => harrives ⟨top, harrives'⟩
    rw [Plot.find?_of_not_arrives hnot, Plot.find?_of_not_arrives (h.not_arrives hnot)]

theorem Since.spells_of_site? {place : Place} (h : Since start p.root plots disk)
    (hlinkless : ∀ top, start.Arrives p.root top → start.Linkless top)
    (hsite : disk.site? (p.path part) = some place) : start.Spells p.root (p.path part) place := by
  obtain ⟨found, hresolve⟩ : ∃ found, disk.resolve true (p.path part) = .ok found := by
    unfold Disk.site? at hsite
    cases hresolve : disk.resolve true (p.path part) with
    | ok found => exact ⟨found, rfl⟩
    | error fault => simp [hresolve] at hsite
  obtain ⟨top, hdisk, hon⟩ := Plot.exists_on_of_resolve hresolve
  by_cases harrives : ∃ top, start.Arrives p.root top
  · obtain ⟨top', harrives⟩ := harrives
    have hvaries := (since_iff harrives).mp h
    obtain rfl := (hvaries.arrives harrives).unique hdisk
    have hlinkless' : disk.Linkless top' :=
      fun below target hat => hlinkless top' harrives below target (hvaries.link hat)
    rw [(hon hlinkless').eq_place_of_site? hsite]
    exact Plot.spells_place harrives part
  · have hnot : ∀ top, ¬start.Arrives p.root top := fun top harrives' => harrives ⟨top, harrives'⟩
    exact absurd hdisk (h.not_arrives hnot top)

end Since

namespace Plot

variable {p : Plot} {plots : Set Plot} {rig : Rig} {machine : Machine} {disk start : Disk}
  {top : Place} {sourced : Prop} {known : Set Path} {r : Request}

theorem sourced_of_allows (h : p.Allows rig top sourced known r)
    (hne : ∀ path, r ≠ .isFile path) : sourced := by
  cases r with
  | isFile path => exact absurd rfl (hne path)
  | _ => exact h.1

theorem On.promises_answer (hon : p.On disk top) (machine : Machine)
    (hne : ∀ path, r ≠ .isFile path) :
    p.Promises top sourced r (machine.answer r disk).1 := by
  cases r with
  | isFile path => exact absurd rfl (hne path)
  | openFile path => exact hon.promises_openFile
  | createFile path => exact hon.promises_createFile machine
  | _ => trivial

/-- A test that works by its contract touches nothing but what is made for it. -/
theorem governs (hlinkless : ∀ top, start.Arrives p.root top → start.Linkless top)
    (htop : ∀ top', start.Arrives p.root top' → top' = top) (hp : p ∈ plots) :
    (p.contract rig top (start.isFile (p.path .source) = true)).Governs machine
      (Confined machine rig p.files) (Since start p.root plots) fun step =>
        Since start p.root plots step.before ∧ Since start p.root plots step.after ∧
          step.Within (start.Spells p.root) p.files.generated := by
  intro known r disk hallows hsince hlaunch
  by_cases hsource : ∃ path, r = .isFile path
  · obtain ⟨path, rfl⟩ := hsource
    obtain rfl : path = p.path .source := hallows
    refine ⟨?_, hsince, hsince, hsince, ?_⟩
    · have hfind : disk.find? (p.path .source) = start.find? (p.path .source) :=
        hsince.find?_eq hlinkless (by simp [Part.IsGenerated])
      intro hfile
      change disk.isFile (p.path .source) = true at hfile
      unfold Disk.isFile at hfile ⊢
      rw [← hfind]
      exact hfile
    · exact Step.within_isFile _ disk
  · have hne : ∀ path, r ≠ .isFile path := fun path heq => hsource ⟨path, heq⟩
    have hfile : start.isFile (p.path .source) = true := sourced_of_allows hallows hne
    obtain ⟨top', harrives, hon⟩ := exists_on_of_isFile hfile
    obtain rfl := htop top' harrives
    have hstart := hon (hlinkless top' harrives)
    have hvaries := (since_iff harrives).mp hsince
    have hnow := hstart.vary hvaries
    have hshelf := hvaries.keepsWays.directory _ (shelf_of_isFile hstart hfile)
    have hafter := hsince.alter harrives hp (hnow.alters_answer hshelf hallows hlaunch)
    exact ⟨hnow.promises_answer machine hne, hafter, hsince, hafter,
      hnow.within harrives hshelf hallows hlaunch⟩

end Plot

end Trial

end GoldenRun
