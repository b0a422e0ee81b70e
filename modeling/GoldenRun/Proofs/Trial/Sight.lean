import GoldenRun.Proofs.Disk.Frame
import GoldenRun.Proofs.Trial.Plot

/-!
# What a test sees of the file system

Where the root of a corpus leads to a directory without links below it, everything that happens to
the files of a test is told by the entries at their places and at the places of their shelves.
-/

namespace GoldenRun

namespace Disk

/-- There are no links below a place. -/
def Linkless (disk : Disk) (top : Place) : Prop :=
  ∀ below target, disk.at? (top ++ below) ≠ some (.link target)

theorem linkless_of_entries {disk : Disk} {top : Place}
    (h : ∀ place target, (place, Entry.link target) ∉ disk.entries) : disk.Linkless top := by
  intro below target hat
  unfold at? at hat
  split_ifs at hat with hnil
  · simp at hat
  · obtain ⟨before, after, hentries, -⟩ := List.lookup_eq_some_iff.mp hat
    exact h (top ++ below) target (by simp [hentries])

/-- The place that a path leads to, whether or not something stands there. -/
def site? (disk : Disk) (path : Path) : Option Place :=
  match disk.resolve true path with
  | .ok (.entry place _) => some place
  | .ok (.vacant directory name) => some (directory ++ [name])
  | .error _ => none

def content? (disk : Disk) (path : Path) : Option Bytes :=
  match disk.find? path with
  | some (_, .file data _) => some data
  | _ => none

end Disk

namespace Trial

namespace Plot

variable (p : Plot) (disk : Disk) (top : Place)

/-- The root leads to a place, and the directories of the category are below it. -/
structure On : Prop where
  arrives : disk.Arrives p.root top
  category : disk.at? (top ++ [p.category]) = some .directory
  resources : disk.at? (top ++ [p.category, "testResources"]) = some .directory
  category_short : p.category.utf8ByteSize ≤ Disk.nameLimit
  linkless : disk.Linkless top

/-- What is found where a file is looked for: a fault, or what stands there. -/
def sight (part : Part) : Except Fault (Option Entry) :=
  match Disk.textFault? (p.path part) with
  | some fault => .error fault
  | none =>
    match disk.at? (p.shelfPlace top part) with
    | some .directory =>
      if (p.leaf part).utf8ByteSize > Disk.nameLimit then .error .nameTooLong
      else .ok (disk.at? (p.place top part))
    | some (.file _ _) => .error .notADirectory
    | _ => .error .missing

/-- Where a path leads that is followed to what was found. -/
def target (part : Part) : Option Entry → Target
  | some entry => .entry (p.place top part) entry
  | none => .vacant (p.shelfPlace top part) (p.leaf part)

end Plot

end Trial

namespace Disk

theorem textFault?_ne_missing {path : Path} (hne : path ≠ "") :
    textFault? path ≠ some .missing := by
  unfold textFault?
  split_ifs <;> simp

theorem walk_directory {disk : Disk} {follow : Bool} {links : ℕ} {place : Place} {name : String}
    {rest : List String} (h : Path.IsName name) (hshort : name.utf8ByteSize ≤ nameLimit)
    (hat : disk.at? (place ++ [name]) = some .directory) :
    disk.walk follow links place (name :: rest) =
      disk.walk follow links (place ++ [name]) rest := by
  rw [walk, if_neg h.ne_here, if_neg h.ne_up, if_neg hshort.not_gt, hat]

theorem exists_directory_of_walk {disk : Disk} {follow : Bool} {links : ℕ} {place : Place}
    {name : String} {rest : List String} {target : Target} (h : Path.IsName name)
    (hrest : rest ≠ []) (hlink : ∀ target, disk.at? (place ++ [name]) ≠ some (.link target))
    (hwalk : disk.walk follow links place (name :: rest) = .ok target) :
    name.utf8ByteSize ≤ nameLimit ∧ disk.at? (place ++ [name]) = some .directory ∧
      disk.walk follow links (place ++ [name]) rest = .ok target := by
  rw [walk, if_neg h.ne_here, if_neg h.ne_up] at hwalk
  have hshort : ¬name.utf8ByteSize > nameLimit := by
    intro hlong
    rw [if_pos hlong] at hwalk
    contradiction
  rw [if_neg hshort] at hwalk
  cases hat : disk.at? (place ++ [name]) with
  | none => simp [hat, hrest] at hwalk
  | some entry =>
    cases entry with
    | file data executable => simp [hat, hrest] at hwalk
    | directory => exact ⟨le_of_not_gt hshort, rfl, by simpa [hat] using hwalk⟩
    | link path => exact absurd hat (hlink path)

theorem walk_name {disk : Disk} {follow : Bool} {links : ℕ} {place : Place} {name : String}
    (h : Path.IsName name) (hlink : ∀ target, disk.at? (place ++ [name]) ≠ some (.link target)) :
    disk.walk follow links place [name] =
      if name.utf8ByteSize > nameLimit then .error .nameTooLong
      else match disk.at? (place ++ [name]) with
        | none => .ok (.vacant place name)
        | some entry => .ok (.entry (place ++ [name]) entry) := by
  rw [walk, if_neg h.ne_here, if_neg h.ne_up]
  by_cases hlong : name.utf8ByteSize > nameLimit
  · rw [if_pos hlong, if_pos hlong]
  · rw [if_neg hlong, if_neg hlong]
    cases hat : disk.at? (place ++ [name]) with
    | none => rfl
    | some entry =>
      cases entry with
      | file data executable => rfl
      | directory => simp [walk]
      | link target => exact absurd hat (hlink target)

end Disk

namespace Trial.Plot

variable {p : Plot} {disk : Disk} {top : Place} {part : Part}

theorem start_path (p : Plot) (disk : Disk) (part : Part) :
    disk.start (p.path part) = disk.start p.root := by
  simp [Disk.start, p.isAbsolute_path part]

theorem start_shelfPath (p : Plot) (disk : Disk) (part : Part) :
    disk.start (p.shelfPath part) = disk.start p.root := by
  simp [Disk.start, p.isAbsolute_shelfPath part]

/-- A walk below the root comes to the directory of the category's files. -/
theorem On.walk_resources (h : p.On disk top) : ∃ left, ∀ follow rest, rest ≠ [] →
    disk.walk follow Disk.linkLimit (disk.start p.root)
        (p.root.steps ++ p.category :: "testResources" :: rest) =
      disk.walk follow left (top ++ [p.category, "testResources"]) rest := by
  obtain ⟨left, hleads⟩ := h.arrives
  refine ⟨left, ?_⟩
  intro follow rest hrest
  rw [hleads.walk_append (Or.inl (by simp)),
    Disk.walk_directory p.category_isName h.category_short h.category,
    Disk.walk_directory isName_testResources (by decide) (by simpa using h.resources)]
  simp

theorem exists_on_of_resolve {follow : Bool} {found : Target}
    (h : disk.resolve follow (p.path part) = .ok found) :
    ∃ top, disk.Arrives p.root top ∧ (disk.Linkless top → p.On disk top) := by
  unfold Disk.resolve Disk.resolveAlong at h
  rw [p.route_path part, p.steps_path part, p.start_path] at h
  split at h
  · contradiction
  · obtain ⟨left, top, hleads, hwalk⟩ := Disk.exists_leads_of_walk (by simp) h
    refine ⟨top, ⟨left, hleads⟩, ?_⟩
    intro hlinkless
    obtain ⟨hshort, hcategory, hwalk⟩ := Disk.exists_directory_of_walk p.category_isName (by simp)
      (fun target => hlinkless _ target) hwalk
    obtain ⟨-, hresources, -⟩ := Disk.exists_directory_of_walk isName_testResources (by simp)
      (fun target => by simpa using hlinkless [p.category, "testResources"] target) hwalk
    exact ⟨⟨left, hleads⟩, hcategory, by simpa using hresources, hshort, hlinkless⟩

theorem On.walk (h : p.On disk top) (follow : Bool) (part : Part) :
    disk.walk follow Disk.linkLimit (disk.start p.root) (p.path part).steps =
      match disk.at? (p.shelfPlace top part) with
      | some .directory =>
        if (p.leaf part).utf8ByteSize > Disk.nameLimit then .error .nameTooLong
        else .ok (p.target top part (disk.at? (p.place top part)))
      | some (.file _ _) => .error .notADirectory
      | _ => .error .missing := by
  obtain ⟨left, hwalk⟩ := h.walk_resources
  have hlink : ∀ target, disk.at? (p.place top part) ≠ some (.link target) :=
    fun target => h.linkless _ target
  rw [p.steps_path part, hwalk follow _ (by simp), Disk.walk,
    if_neg part.isName_shelf.ne_here, if_neg part.isName_shelf.ne_up,
    if_neg part.shelf_short.not_gt, append_shelf]
  cases hat : disk.at? (p.shelfPlace top part) with
  | none => simp
  | some entry =>
    cases entry with
    | file data executable => simp
    | link target => exact absurd hat (h.linkless _ target)
    | directory =>
      simp only
      rw [Disk.walk_name (p.leaf_isName part) (by rw [shelfPlace_append_leaf]; exact hlink),
        shelfPlace_append_leaf]
      split_ifs
      · rfl
      · cases disk.at? (p.place top part) <;> rfl

theorem On.resolveAlong (h : p.On disk top) (follow : Bool) (part : Part) :
    disk.resolveAlong follow (p.path part) (p.path part).steps =
      (p.sight disk top part).map (p.target top part) := by
  unfold Disk.resolveAlong sight
  rw [p.start_path, h.walk follow part]
  cases Disk.textFault? (p.path part) with
  | some fault => rfl
  | none =>
    simp only
    split
    · split_ifs <;> rfl
    · rfl
    · rfl

theorem On.resolve (h : p.On disk top) (follow : Bool) (part : Part) :
    disk.resolve follow (p.path part) = (p.sight disk top part).map (p.target top part) := by
  unfold Disk.resolve
  rw [p.route_path part, h.resolveAlong follow part]

/-- What is found where a file is looked for is told by its place and its shelf. -/
theorem On.find?_congr {before after : Disk} (h : p.On before top) (h' : p.On after top)
    (hshelf : after.at? (p.shelfPlace top part) = before.at? (p.shelfPlace top part))
    (hplace : after.at? (p.place top part) = before.at? (p.place top part)) :
    after.find? (p.path part) = before.find? (p.path part) := by
  unfold Disk.find?
  rw [h.resolve, h'.resolve]
  unfold sight
  rw [hshelf, hplace]

theorem On.resolveAlong_shelf (h : p.On disk top) (follow : Bool) (part : Part) :
    disk.resolveAlong follow (p.shelfPath part) (p.shelfPath part).steps =
      match Disk.textFault? (p.shelfPath part) with
      | some fault => .error fault
      | none =>
        match disk.at? (p.shelfPlace top part) with
        | none => .ok (.vacant (top ++ [p.category, "testResources"]) part.shelf)
        | some entry => .ok (.entry (p.shelfPlace top part) entry) := by
  obtain ⟨left, hwalk⟩ := h.walk_resources
  have hlink : ∀ target, disk.at? (p.shelfPlace top part) ≠ some (.link target) :=
    fun target => h.linkless _ target
  unfold Disk.resolveAlong
  rw [p.start_shelfPath, p.steps_shelfPath part, hwalk follow _ (by simp)]
  cases Disk.textFault? (p.shelfPath part) with
  | some fault => rfl
  | none =>
    rw [← append_shelf] at hlink ⊢
    exact (Disk.walk_name part.isName_shelf hlink).trans (if_neg part.shelf_short.not_gt)

theorem On.makeDirectories (h : p.On disk top) (part : Part) :
    disk.makeDirectories (p.shelfPath part) =
      match Disk.textFault? (p.shelfPath part) with
      | some fault => (.error fault, disk)
      | none =>
        match disk.at? (p.shelfPlace top part) with
        | none => (.ok (), disk.put (p.shelfPlace top part) .directory)
        | some .directory => (.ok (), disk)
        | some _ => (.error .alreadyExists, disk) := by
  obtain ⟨above, hlineage⟩ := p.lineage_shelfPath part
  have hne : p.shelfPath part ≠ "" := by
    intro hnil
    have hsteps := p.steps_shelfPath part
    rw [hnil] at hsteps
    have hlength := congrArg List.length hsteps
    simp [Path.steps, Path.segments, pieces] at hlength
  have hdirectory : disk.isDirectory (p.shelfPath part) =
      match Disk.textFault? (p.shelfPath part) with
      | some _ => false
      | none => decide (disk.at? (p.shelfPlace top part) = some .directory) := by
    unfold Disk.isDirectory Disk.find? Disk.resolve
    rw [p.route_shelfPath part, h.resolveAlong_shelf true part]
    cases Disk.textFault? (p.shelfPath part) with
    | some fault => rfl
    | none => rcases disk.at? (p.shelfPlace top part) with _ | (_ | _ | _) <;> simp
  unfold Disk.makeDirectories
  rw [hlineage, Disk.makeLineage, if_neg hne]
  unfold Disk.makeDirectory
  rw [h.resolveAlong_shelf false part, hdirectory]
  cases hfault : Disk.textFault? (p.shelfPath part) with
  | some fault =>
    have hmissing : fault ≠ .missing := by
      rintro rfl
      exact Disk.textFault?_ne_missing hne hfault
    cases fault with
    | missing => exact absurd rfl hmissing
    | _ => rfl
  | none => rcases hat : disk.at? (p.shelfPlace top part) with _ | (_ | _ | _) <;>
      simp [shelfPlace]

end Trial.Plot

end GoldenRun
