import GoldenRun.Proofs.Trial.Plot

/-!
# The paths of the files of a test

Below the root the path of a file has four components, all of them names, and these tell the test
and which of its files it is. So the files of different tests never meet, however the root is
written. It is a matter of the texts of the paths alone: nothing is asked of a file system.
-/

namespace GoldenRun

namespace Path

/-- Whether a path is another one or lies below it, component by component. -/
def IsWithin (path directory : Path) : Prop :=
  directory.components <+: path.components

instance (path directory : Path) : Decidable (path.IsWithin directory) :=
  inferInstanceAs (Decidable (_ <+: _))

/-- Whether two paths differ and neither lies below the other. -/
def Apart (path other : Path) : Prop :=
  ¬path.IsWithin other ∧ ¬other.IsWithin path

instance (path other : Path) : Decidable (path.Apart other) :=
  inferInstanceAs (Decidable (_ ∧ _))

theorem apart_iff {path other : Path} (h : path.components.length = other.components.length) :
    path.Apart other ↔ path.components ≠ other.components := by
  constructor
  · rintro ⟨hwithin, -⟩ heq
    apply hwithin
    unfold IsWithin
    rw [heq]
  · intro hne
    exact ⟨fun hwithin => hne (hwithin.eq_of_length h.symm).symm,
      fun hwithin => hne (hwithin.eq_of_length h)⟩

end Path

namespace Trial

open GoldenRun.Path (IsName Component)

def Files.path (files : Files) : Part → Path
  | .source => files.source
  | .object => files.object
  | .listing => files.listing
  | .image => files.image
  | .expected => files.expected
  | .result => files.result

variable {root path : Path} {category name category' name' : String} {part part' : Part}

theorem path_locate (root : Path) (category name : String) (part : Part) :
    (Files.locate root category name).path part =
      ((resources root category).join part.shelf).join (name ++ part.ending) := by
  cases part <;> rfl

/-- The components of the root, and behind them the names that lead to a file. -/
def trail (root : Path) (category name : String) (part : Part) : List Component :=
  root.components ++ (part.names category name).map .name

theorem length_trail : (trail root category name part).length = root.components.length + 4 := by
  simp [trail, Part.names]

theorem trail_inj (h : trail root category name part = trail root category' name' part') :
    category = category' ∧ name = name' ∧ part = part' := by
  have hnames := List.append_cancel_left h
  exact Part.names_inj (List.map_injective_iff.mpr (fun _ _ => Component.name.inj) hnames)

/-- What the layout needs of category and name: the files are where their names lead exactly if the
category can be the name of an entry and the other name, which never stands without an ending,
holds no slash. -/
theorem components_path_iff :
    (∀ part, ((Files.locate root category name).path part).components =
      trail root category name part) ↔ IsName category ∧ '/' ∉ name.toList := by
  constructor
  · intro h
    -- One file is enough, as all that leads to it are names.
    have hnames : ∀ text ∈ Part.source.names category name, IsName text := by
      intro text htext
      have hmem : Component.name text ∈
          ((Files.locate root category name).path .source).components := by
        rw [h .source]
        exact List.mem_append_right _ (List.mem_map_of_mem htext)
      exact Path.isName_of_mem_components hmem
    have hleaf := (hnames (name ++ Part.source.ending) (by simp [Part.names])).not_mem
    exact ⟨hnames category (by simp [Part.names]), fun hslash => hleaf (by simp [hslash])⟩
  · rintro ⟨hcategory, hslash⟩ part
    rw [path_locate, Path.components_join (part.isName_append hslash),
      Path.components_join part.isName_shelf]
    unfold resources
    rw [Path.components_join Plot.isName_testResources, Path.components_join hcategory]
    simp [trail, Part.names]

theorem components_path (h : checkName category name = .ok ()) (part : Part) :
    ((Files.locate root category name).path part).components = trail root category name part := by
  obtain ⟨hcategory, hname⟩ := checkName_eq_ok_iff.mp h
  exact components_path_iff.mpr
    ⟨Path.isName_of_flaw? hcategory, (Path.isName_of_flaw? hname).not_mem⟩ part

/-- What stands before the ending in the name of a file. -/
def Part.stem? (part : Part) (leaf : String) : Option String :=
  (leaf.toList.dropSuffix? part.ending.toList).map String.ofList

theorem Part.stem?_eq_some_iff {leaf : String} :
    part.stem? leaf = some name ↔ leaf = name ++ part.ending := by
  unfold stem?
  rw [Option.map_eq_some_iff]
  constructor
  · rintro ⟨stem, hstem, rfl⟩
    obtain ⟨ending, hleaf, hending⟩ := List.dropSuffix?_eq_some_iff.mp hstem
    rw [← String.toList_inj, hleaf, eq_of_beq hending]
    simp
  · rintro rfl
    refine ⟨name.toList, ?_, String.ofList_toList⟩
    exact List.dropSuffix?_eq_some_iff.mpr ⟨_, String.toList_append, beq_self_eq_true _⟩

/-- The category and the name of the test that has its source, its object or whatever else is asked
for at a path. -/
def owner? (root : Path) (part : Part) (path : Path) : Option (String × String) :=
  match path.components.dropPrefix? root.components with
  | some [.name category, .name resources, .name shelf, .name leaf] =>
    if resources = "testResources" ∧ shelf = part.shelf then
      (part.stem? leaf).map (category, ·)
    else none
  | _ => none

theorem owner?_eq_some_iff :
    owner? root part path = some (category, name) ↔
      path.components = trail root category name part := by
  unfold owner?
  constructor
  · intro h
    split at h
    · next hdrop =>
      split_ifs at h with hshelf
      obtain ⟨front, hfront, hroot⟩ := List.dropPrefix?_eq_some_iff.mp hdrop
      obtain ⟨stem, hstem, hpair⟩ := Option.map_eq_some_iff.mp h
      obtain ⟨rfl, rfl⟩ := Prod.mk.inj hpair
      rw [hfront, eq_of_beq hroot, hshelf.1, hshelf.2, Part.stem?_eq_some_iff.mp hstem]
      rfl
    · contradiction
  · intro h
    have hdrop : path.components.dropPrefix? root.components =
        some ((part.names category name).map .name) := by
      rw [h]
      exact List.dropPrefix?_append_of_beq _ (beq_self_eq_true _)
    rw [hdrop]
    simp [Part.names, Part.stem?_eq_some_iff]

/-- The files of accepted tests never collide. The six of one test differ, and each stands four
names below the root. Those of two tests neither coincide nor lie below each other. A path that has
the components of a file tells the test to which it belongs, given the root and what the file is to
the test, and no other path does. -/
theorem locate_never_collides (root : Path) (hcheck : checkName category name = .ok ())
    (hcheck' : checkName category' name' = .ok ()) :
    (Function.Injective fun part => ((Files.locate root category name).path part).components) ∧
      (∀ part, ((Files.locate root category name).path part).components =
        root.components ++ [.name category, .name "testResources", .name part.shelf,
          .name (name ++ part.ending)]) ∧
      ((category, name) ≠ (category', name') → ∀ part part',
        ((Files.locate root category name).path part).Apart
          ((Files.locate root category' name').path part')) ∧
      ∀ part path, owner? root part path = some (category, name) ↔
        path.components = ((Files.locate root category name).path part).components := by
  refine ⟨?_, components_path hcheck, ?_, ?_⟩
  · intro part part' h
    simp only [components_path hcheck] at h
    exact (trail_inj h).2.2
  · intro hne part part'
    rw [Path.apart_iff]
    · rw [components_path hcheck, components_path hcheck']
      intro h
      obtain ⟨rfl, rfl, -⟩ := trail_inj h
      exact hne rfl
    · rw [components_path hcheck, components_path hcheck', length_trail, length_trail]
  · intro part path
    rw [owner?_eq_some_iff, components_path hcheck]

/-- Two tests, one of which bears the name of a file of the other, and a path that is written
another way. -/
theorem locate_never_collides_sample :
    checkName "c" "a" = .ok () ∧ checkName "c" "a.out" = .ok () ∧
      ((Files.locate "../r/" "c" "a").path .object).Apart
        ((Files.locate "../r/" "c" "a.out").path .source) ∧
      owner? "../r/" .source "..//r/c/./testResources/assembly/a.out.s" = some ("c", "a.out") := by
  have ha : checkName "c" "a" = .ok () := by decide
  have hout : checkName "c" "a.out" = .ok () := by decide
  obtain ⟨-, -, hapart, -⟩ := locate_never_collides "../r/" ha hout
  obtain ⟨-, -, -, howner⟩ := locate_never_collides "../r/" hout ha
  exact ⟨ha, hout, hapart (by decide) .object .source, (howner .source _).mpr (by decide)⟩

end Trial

end GoldenRun
