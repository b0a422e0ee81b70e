import GoldenRun.Proofs.Trial.Answers

/-!
# A corpus with tests at work

Tests write the files that are made for them, and make the shelves of images and of dumps. Whatever
else they do, the root of the corpus leads to the same place, the sources and the golden results
stay as they are, and a file can be made where it could be made before.
-/

namespace GoldenRun.Trial

/-- Whether the shelf of a file may have to be made when the test runs. That of the source is there
before. -/
def Part.IsApart : Part → Prop
  | .image | .result => True
  | _ => False

theorem Part.IsApart.isGenerated {part : Part} (h : part.IsApart) : part.IsGenerated := by
  cases part <;> simp_all [Part.IsApart, Part.IsGenerated]

/-- The places of the files that are made for tests. -/
def filesOf (top : Place) (plots : Set Plot) : Set Place :=
  {place | ∃ p ∈ plots, ∃ part, part.IsGenerated ∧ place = p.place top part}

def shelvesOf (top : Place) (plots : Set Plot) : Set Place :=
  {place | ∃ p ∈ plots, ∃ part, part.IsApart ∧ place = p.shelfPlace top part}

variable {p q : Plot} {plots : Set Plot} {disk before after : Disk} {top : Place} {part : Part}

theorem disjoint_files_shelves : Disjoint (filesOf top plots) (shelvesOf top plots) := by
  rw [Set.disjoint_left]
  rintro place ⟨p, -, part, -, rfl⟩ ⟨q, -, part', -, h⟩
  exact Plot.place_ne_shelfPlace h

theorem filesOf_mono {plots' : Set Plot} (h : plots ⊆ plots') :
    filesOf top plots ⊆ filesOf top plots' :=
  fun _ ⟨p, hp, part, hpart⟩ => ⟨p, h hp, part, hpart⟩

theorem shelvesOf_mono {plots' : Set Plot} (h : plots ⊆ plots') :
    shelvesOf top plots ⊆ shelvesOf top plots' :=
  fun _ ⟨p, hp, part, hpart⟩ => ⟨p, h hp, part, hpart⟩

namespace Plot

theorem shelf_not_mem_files : p.shelfPlace top part ∉ filesOf top plots := by
  rintro ⟨q, -, part', -, h⟩
  exact place_ne_shelfPlace h.symm

theorem place_not_mem_shelves : p.place top part ∉ shelvesOf top plots := by
  rintro ⟨q, -, part', -, h⟩
  exact place_ne_shelfPlace h

theorem place_not_mem_files (hpart : ¬part.IsGenerated) : p.place top part ∉ filesOf top plots := by
  rintro ⟨q, -, part', hgenerated, h⟩
  obtain ⟨-, -, rfl⟩ := place_inj h
  exact hpart hgenerated

theorem place_not_mem_others (h : ∀ q ∈ plots, (q.category, q.name) ≠ (p.category, p.name)) :
    p.place top part ∉ filesOf top plots := by
  rintro ⟨q, hq, part', -, hplace⟩
  obtain ⟨hcategory, hname, -⟩ := place_inj hplace
  exact h q hq (Prod.ext hcategory.symm hname.symm)

theorem shelf_not_mem_shelves (hpart : ¬part.IsApart) :
    p.shelfPlace top part ∉ shelvesOf top plots := by
  rintro ⟨q, -, part', hapart, h⟩
  have hshelf : part.shelf = part'.shelf := by
    have hnames := List.append_cancel_left h
    simp only [List.cons.injEq, and_true, true_and] at hnames
    exact hnames.2
  revert hpart hapart hshelf
  cases part <;> cases part' <;> simp [Part.shelf, Part.IsApart]

theorem resources_not_mem (top : Place) (plots : Set Plot) (names : List String)
    (hlength : names.length < 3) :
    top ++ names ∉ filesOf top plots ∧ top ++ names ∉ shelvesOf top plots := by
  constructor
  · rintro ⟨q, -, part', -, h⟩
    have := congrArg List.length (List.append_cancel_left h)
    simp at this
    omega
  · rintro ⟨q, -, part', -, h⟩
    have := congrArg List.length (List.append_cancel_left h)
    simp at this
    omega

/-- What a test may do to the file system. -/
def Alters (p : Plot) (top : Place) (before after : Disk) : Prop :=
  Disk.Varies (filesOf top {p}) (shelvesOf top {p}) before after

theorem Alters.refl (p : Plot) (top : Place) (disk : Disk) : p.Alters top disk disk :=
  Disk.Varies.refl disk

theorem Alters.trans {last : Disk} (h : p.Alters top before after) (h' : p.Alters top after last) :
    p.Alters top before last :=
  Disk.Varies.trans disjoint_files_shelves h h'

/-- What making one file of the test may do: the file changes, and its shelf may have to be made. -/
def Makes (p : Plot) (top : Place) (part : Part) (before after : Disk) : Prop :=
  Disk.Varies {p.place top part} {place | part.IsApart ∧ place = p.shelfPlace top part} before after

theorem Makes.refl (p : Plot) (top : Place) (part : Part) (disk : Disk) :
    p.Makes top part disk disk :=
  Disk.Varies.refl disk

theorem Makes.trans {last : Disk} (h : p.Makes top part before after)
    (h' : p.Makes top part after last) : p.Makes top part before last := by
  refine Disk.Varies.trans ?_ h h'
  rw [Set.disjoint_singleton_left]
  rintro ⟨-, hplace⟩
  exact place_ne_shelfPlace hplace

theorem Makes.alters (h : p.Makes top part before after) (hpart : part.IsGenerated) :
    p.Alters top before after := by
  refine Disk.Varies.mono h ?_ ?_
  · rintro _ rfl
    exact ⟨p, rfl, part, hpart, rfl⟩
  · rintro _ ⟨hapart, rfl⟩
    exact ⟨p, rfl, part, hapart, rfl⟩

theorem makes_of_sets {new : Option Entry} (h : Disk.Sets (p.place top part) new before after) :
    p.Makes top part before after :=
  h.within rfl

theorem alters_of_sets {new : Option Entry} (h : Disk.Sets (p.place top part) new before after)
    (hpart : part.IsGenerated) : p.Alters top before after :=
  (makes_of_sets h).alters hpart

theorem makes_of_put_shelf (hnone : disk.at? (p.shelfPlace top part) = none)
    (hpart : part.IsApart) :
    p.Makes top part disk (disk.put (p.shelfPlace top part) .directory) := by
  refine ⟨rfl, ?_⟩
  intro place
  rw [disk.at?_put shelfPlace_ne_nil]
  split_ifs with hplace
  · subst hplace
    exact Or.inr (Or.inr ⟨⟨hpart, rfl⟩, hnone, rfl⟩)
  · exact Or.inl rfl

theorem alters_of_put_shelf (hnone : disk.at? (p.shelfPlace top part) = none)
    (hpart : part.IsApart) :
    p.Alters top disk (disk.put (p.shelfPlace top part) .directory) :=
  (makes_of_put_shelf hnone hpart).alters hpart.isGenerated

/-- The root leads to the same place, whatever the tests do. -/
theorem On.vary (h : p.On before top)
    (hvaries : Disk.Varies (filesOf top plots) (shelvesOf top plots) before after) :
    p.On after top :=
  ⟨hvaries.arrives h.arrives, hvaries.keepsWays.directory _ h.category,
    hvaries.keepsWays.directory _ h.resources, h.category_short,
    fun below target hat => h.linkless below target (hvaries.link hat)⟩

theorem On.vary_back (h : p.On after top) (harrives : before.Arrives p.root top)
    (hlinkless : before.Linkless top)
    (hvaries : Disk.Varies (filesOf top plots) (shelvesOf top plots) before after) :
    p.On before top := by
  have hcategory := resources_not_mem top plots [p.category] (by simp)
  have hresources := resources_not_mem top plots [p.category, "testResources"] (by simp)
  exact ⟨harrives, (hvaries.at?_eq hcategory.1 hcategory.2).symm.trans h.category,
    (hvaries.at?_eq hresources.1 hresources.2).symm.trans h.resources, h.category_short, hlinkless⟩

theorem view_vary (hpart : ¬part.IsGenerated)
    (hvaries : Disk.Varies (filesOf top plots) (shelvesOf top plots) before after) :
    p.view after top part = p.view before top part := by
  have hapart : ¬part.IsApart := by
    cases part <;> simp_all [Part.IsGenerated, Part.IsApart]
  refine view_congr (hvaries.at?_eq shelf_not_mem_files (shelf_not_mem_shelves hapart)) ?_
  rw [hvaries.at?_eq (place_not_mem_files hpart) place_not_mem_shelves]

/-- Nothing is found at the path of a file where the directories of the category are missing,
whatever the tests do. -/
theorem find?_of_not_on (harrives : before.Arrives p.root top) (hlinkless : before.Linkless top)
    (hnot : ¬p.On before top)
    (hvaries : Disk.Varies (filesOf top plots) (shelvesOf top plots) before after) (part : Part) :
    after.find? (p.path part) = none := by
  unfold Disk.find?
  cases hresolve : after.resolve true (p.path part) with
  | error fault => rfl
  | ok found =>
    obtain ⟨top', harrives', hon⟩ := exists_on_of_resolve hresolve
    obtain rfl := (hvaries.arrives harrives).unique harrives'
    have hafter := hon fun below target hat => hlinkless below target (hvaries.link hat)
    exact absurd (hafter.vary_back harrives hlinkless hvaries) hnot

theorem isFile_source_vary (harrives : before.Arrives p.root top) (hlinkless : before.Linkless top)
    (hvaries : Disk.Varies (filesOf top plots) (shelvesOf top plots) before after) :
    after.isFile (p.path .source) = before.isFile (p.path .source) := by
  by_cases hon : p.On before top
  · rw [hon.isFile, (hon.vary hvaries).isFile, view_vary (by simp [Part.IsGenerated]) hvaries]
  · have hkept : Disk.Varies (filesOf top plots) (shelvesOf top plots) before before := .refl before
    have hbefore := find?_of_not_on harrives hlinkless hon hkept .source
    have hafter := find?_of_not_on harrives hlinkless hon hvaries .source
    simp [Disk.isFile, hbefore, hafter]

/-- Where the source is a regular file, the root leads to the category and its shelf is there. -/
theorem exists_on_of_isFile (h : disk.isFile (p.path .source) = true) :
    ∃ top, disk.Arrives p.root top ∧ (disk.Linkless top → p.On disk top) := by
  unfold Disk.isFile Disk.find? at h
  cases hresolve : disk.resolve true (p.path .source) with
  | error fault => simp [hresolve] at h
  | ok found => exact exists_on_of_resolve hresolve

theorem shelf_of_isFile (hon : p.On disk top) (h : disk.isFile (p.path .source) = true) :
    disk.at? (p.shelfPlace top .source) = some .directory := by
  rw [hon.isFile] at h
  unfold view sight at h
  split at h
  · contradiction
  · split at h
    · assumption
    · contradiction
    · contradiction

theorem isApart_or_shelf (hshelf : disk.at? (p.shelfPlace top .source) = some .directory)
    (hpart : part.IsGenerated) :
    part.IsApart ∨ disk.at? (p.shelfPlace top part) = some .directory := by
  cases part with
  | object => exact Or.inr hshelf
  | listing => exact Or.inr hshelf
  | image => exact Or.inl trivial
  | result => exact Or.inl trivial
  | source => exact hpart.elim
  | expected => exact hpart.elim

/-- Where there is a source, no directory can be missing but that of the image or of the dump. -/
theorem On.makes_makeDirectories (h : p.On disk top)
    (hshelf : disk.at? (p.shelfPlace top .source) = some .directory) (hpart : part.IsGenerated) :
    p.Makes top part disk (disk.makeDirectories (p.shelfPath part)).2 := by
  rw [h.makeDirectories part]
  cases Disk.textFault? (p.shelfPath part) with
  | some fault => exact .refl p top part disk
  | none =>
    cases hat : disk.at? (p.shelfPlace top part) with
    | none =>
      rcases isApart_or_shelf hshelf hpart with hapart | hdirectory
      · exact makes_of_put_shelf hat hapart
      · rw [hat] at hdirectory
        contradiction
    | some entry => cases entry <;> exact .refl p top part disk

end Plot

end GoldenRun.Trial
