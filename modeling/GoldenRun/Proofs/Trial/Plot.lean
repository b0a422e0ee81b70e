import GoldenRun.Proofs.Path
import GoldenRun.Trial.Basic

/-!
# Where the files of a test stand

A test has its files in four directories of its category. Below the place of the root each file
stands at the same depth, and no two files of a corpus share a place.
-/

namespace GoldenRun.Trial

open GoldenRun.Path (IsName)

/-- What a file is to a test. -/
inductive Part
  | source
  | object
  | listing
  | image
  | expected
  | result
  deriving DecidableEq

namespace Part

/-- The directory of a file, by its name in the category. -/
def shelf : Part → String
  | source | object | listing => "assembly"
  | image => "memImages"
  | expected => "expected"
  | result => "results"

def ending : Part → String
  | source => ".s"
  | object => ".out"
  | listing => ".dis"
  | image => ".mem"
  | expected | result => ".txt"

/-- Whether a file is made by running the test. -/
def IsGenerated : Part → Prop
  | source | expected => False
  | _ => True

theorem isName_shelf (part : Part) : IsName part.shelf := by
  cases part <;> exact ⟨by decide, by decide, by decide, by decide⟩

theorem shelf_short (part : Part) : part.shelf.utf8ByteSize ≤ Disk.nameLimit := by
  cases part <;> decide

theorem eq_of_shelf_of_ending (part part' : Part) : part.shelf = part'.shelf →
    part.ending.toList.reverse.take 2 = part'.ending.toList.reverse.take 2 → part = part' := by
  cases part <;> cases part' <;> decide

theorem two_le_length_ending (part : Part) : 2 ≤ part.ending.toList.reverse.length := by
  cases part <;> decide

theorem append_ending_inj {name name' : String} {part part' : Part}
    (hshelf : part.shelf = part'.shelf) (h : name ++ part.ending = name' ++ part'.ending) :
    name = name' ∧ part = part' := by
  have hreverse := congrArg (fun text : String => text.toList.reverse.take 2) h
  simp only [String.toList_append, List.reverse_append,
    List.take_append_of_le_length (two_le_length_ending _)] at hreverse
  have hsame : part = part' := eq_of_shelf_of_ending part part' hshelf hreverse
  subst hsame
  exact ⟨(String.append_left_inj _).mp h, rfl⟩

/-- The names that lead from the root to a file. -/
def names (part : Part) (category name : String) : List String :=
  [category, "testResources", part.shelf, name ++ part.ending]

/-- The names that lead to a file tell what it is, and to which test. -/
theorem names_inj {category category' name name' : String} {part part' : Part}
    (h : part.names category name = part'.names category' name') :
    category = category' ∧ name = name' ∧ part = part' := by
  simp only [names, List.cons.injEq, and_true, true_and] at h
  obtain ⟨hcategory, hshelf, hleaf⟩ := h
  exact ⟨hcategory, append_ending_inj hshelf hleaf⟩

theorem isName_append (part : Part) {name : String} (h : '/' ∉ name.toList) :
    IsName (name ++ part.ending) := by
  have hlast : ∀ text : String, part.ending.toList.getLast? ≠ text.toList.getLast? →
      name ++ part.ending ≠ text := by
    rintro text hne rfl
    apply hne
    rw [String.toList_append, List.getLast?_append_of_ne_nil]
    cases part <;> decide
  have hslash : '/' ∉ part.ending.toList := by cases part <;> decide
  refine ⟨hlast _ ?_, hlast _ ?_, hlast _ ?_, ?_⟩
  · cases part <;> decide
  · cases part <;> decide
  · cases part <;> decide
  · simp [h, hslash]

end Part

/-- A test, by the root of its corpus, its category and its name. -/
structure Plot where
  root : Path
  category : String
  name : String
  category_isName : IsName category
  name_isName : IsName name

theorem flaw?_of_new {rig : Rig} {category name : String} {trial : Trial}
    (h : Trial.new rig category name = .ok trial) :
    flaw? category = none ∧ flaw? name = none := by
  rw [← checkName_eq_ok_iff]
  unfold Trial.new at h
  cases hcheck : checkName category name with
  | error failure => simp [hcheck, bind, Except.bind] at h
  | ok => rfl

namespace Plot

/-- A test that is accepted, in the corpus of the rig. -/
def ofNew {rig : Rig} {category name : String} {trial : Trial}
    (h : Trial.new rig category name = .ok trial) : Plot where
  root := rig.settings.root
  category := category
  name := name
  category_isName := Path.isName_of_flaw? (flaw?_of_new h).1
  name_isName := Path.isName_of_flaw? (flaw?_of_new h).2

variable (p q : Plot) (top : Place) (part : Part)

def shelfPath : Path := (resources p.root p.category).join part.shelf

def leaf : String := p.name ++ part.ending

def path : Path := (p.shelfPath part).join (p.leaf part)

def shelfPlace : Place := top ++ [p.category, "testResources", part.shelf]

def place : Place := top ++ [p.category, "testResources", part.shelf, p.leaf part]

def files : Files := .locate p.root p.category p.name

theorem of_new {rig : Rig} {category name : String} {trial : Trial}
    (h : Trial.new rig category name = .ok trial) :
    trial.files = (ofNew h).files ∧ trial.image = none ∧ trial.verdict = .unset := by
  have hcheck := checkName_eq_ok_iff.mpr (flaw?_of_new h)
  have hnew := h
  unfold Trial.new at hnew
  rw [hcheck] at hnew
  have htrial := (Except.ok.inj hnew).symm
  exact ⟨congrArg Trial.files htrial, congrArg Trial.image htrial, congrArg Trial.verdict htrial⟩

theorem leaf_isName : IsName (p.leaf part) :=
  part.isName_append p.name_isName.not_mem

theorem isName_testResources : IsName "testResources" :=
  ⟨by decide, by decide, by decide, by decide⟩

theorem steps_shelfPath : (p.shelfPath part).steps =
    p.root.steps ++ [p.category, "testResources", part.shelf] := by
  unfold shelfPath resources
  rw [Path.steps_join part.isName_shelf, Path.steps_join isName_testResources,
    Path.steps_join p.category_isName]
  simp

theorem steps_path : (p.path part).steps =
    p.root.steps ++ [p.category, "testResources", part.shelf, p.leaf part] := by
  unfold path
  rw [Path.steps_join (p.leaf_isName part), p.steps_shelfPath part]
  simp

theorem route_path : (p.path part).route = (p.path part).steps := by
  unfold path
  rw [Path.route_join (p.leaf_isName part), Path.steps_join (p.leaf_isName part)]

theorem route_shelfPath : (p.shelfPath part).route = (p.shelfPath part).steps := by
  unfold shelfPath
  rw [Path.route_join part.isName_shelf, Path.steps_join part.isName_shelf]

theorem isAbsolute_shelfPath : (p.shelfPath part).isAbsolute = p.root.isAbsolute := by
  unfold shelfPath resources
  rw [Path.isAbsolute_join part.isName_shelf, Path.isAbsolute_join isName_testResources,
    Path.isAbsolute_join p.category_isName]

theorem isAbsolute_path : (p.path part).isAbsolute = p.root.isAbsolute := by
  unfold path
  rw [Path.isAbsolute_join (p.leaf_isName part), p.isAbsolute_shelfPath part]

theorem endsInSlash_path : (p.path part).endsInSlash = false :=
  Path.endsInSlash_join (p.leaf_isName part)

theorem directory?_path : (p.path part).directory? = some (p.shelfPath part) :=
  Path.directory?_join _ part.isName_shelf (p.leaf_isName part)

theorem lineage_shelfPath : ∃ above, Disk.lineage (p.shelfPath part) = p.shelfPath part :: above :=
  Path.lineage_join _ part.isName_shelf

variable {p q top part} {part' : Part}

theorem place_inj (h : p.place top part = q.place top part') :
    p.category = q.category ∧ p.name = q.name ∧ part = part' :=
  Part.names_inj (List.append_cancel_left h)

theorem place_ne_shelfPlace : p.place top part ≠ q.shelfPlace top part' := by
  intro h
  have hlength := congrArg List.length h
  simp [place, shelfPlace] at hlength

theorem append_shelf :
    top ++ [p.category, "testResources"] ++ [part.shelf] = p.shelfPlace top part := by
  simp [shelfPlace]

theorem shelfPlace_append_leaf : p.shelfPlace top part ++ [p.leaf part] = p.place top part := by
  simp [shelfPlace, place]

theorem place_ne_nil : p.place top part ≠ [] := by
  simp [place]

theorem shelfPlace_ne_nil : p.shelfPlace top part ≠ [] := by
  simp [shelfPlace]

end Plot

end GoldenRun.Trial
