import GoldenRun.Proofs.Disk.Vacancy

/-!
# Directories that are made

A path leads to a directory if there is a way along its segments. Making a directory and what is
missing above it makes nothing but directories that were missing, each where one of these paths
leads from then on.
-/

namespace GoldenRun

namespace Path

theorem of_mem_steps {path : Path} {segment : String} (h : segment ∈ path.steps) :
    segment ≠ "" ∧ '/' ∉ segment.toList := by
  obtain ⟨hmem, hblank⟩ := List.mem_filter.mp h
  exact ⟨by simpa using hblank, slash_not_mem_of_mem_segments hmem⟩

theorem of_mem_route {path : Path} {segment : String} (h : segment ∈ path.route) :
    segment ≠ "" ∧ '/' ∉ segment.toList := by
  unfold route at h
  split_ifs at h
  · rcases List.mem_append.mp h with h | h
    · exact of_mem_steps h
    · obtain rfl := List.mem_singleton.mp h
      decide
  · exact of_mem_steps h

end Path

namespace Disk

variable {disk before after made : Disk} {links : ℕ} {place top directory : Place}
  {segments : List String} {follow : Bool} {path : Path} {paths above : List Path} {name : String}

theorem isName_of_walk_vacant
    (hsegments : ∀ segment ∈ segments, segment ≠ "" ∧ '/' ∉ segment.toList)
    (h : disk.walk follow links place segments = .ok (.vacant directory name)) :
    Path.IsName name := by
  fun_induction walk disk follow links place segments with
  | case2 _ _ rest ih => exact ih (fun s hs => hsegments s (List.mem_cons_of_mem _ hs)) h
  | case3 _ _ rest _ ih => exact ih (fun s hs => hsegments s (List.mem_cons_of_mem _ hs)) h
  | case5 _ place segment hstay hup =>
    obtain ⟨-, rfl⟩ : place = directory ∧ segment = name := by simpa using h
    obtain ⟨hblank, hslash⟩ := hsegments segment (by simp)
    exact ⟨hblank, hstay, hup, hslash⟩
  | case7 _ _ _ rest _ _ _ _ ih =>
    exact ih (fun s hs => hsegments s (List.mem_cons_of_mem _ hs)) h
  | case12 _ segment rest _ _ _ target _ _ _ ih =>
    refine ih (fun s hs => ?_) h
    rcases List.mem_append.mp hs with hs | hs
    · exact Path.of_mem_route hs
    · exact hsegments s (List.mem_cons_of_mem _ hs)
  | _ => simp_all

theorem leads_of_walk (h : disk.walk true links place segments = .ok (.entry top .directory)) :
    ∃ left, disk.Leads links place segments left top := by
  fun_induction walk disk true links place segments with
  | case1 links place =>
    obtain rfl : place = top := by simpa using h
    exact ⟨links, .here⟩
  | case2 _ _ _ ih =>
    obtain ⟨left, hleads⟩ := ih h
    exact ⟨left, .stay hleads⟩
  | case3 _ _ _ _ ih =>
    obtain ⟨left, hleads⟩ := ih h
    exact ⟨left, .up hleads⟩
  | case7 _ _ _ _ hstay hup hshort hat ih =>
    obtain ⟨left, hleads⟩ := ih h
    exact ⟨left, .down hstay hup (le_of_not_gt hshort) hat hleads⟩
  | case12 _ _ _ hstay hup hshort _ hat _ _ ih =>
    obtain ⟨left, hleads⟩ := ih h
    exact ⟨left, .jump hstay hup (le_of_not_gt hshort) hat hleads⟩
  | _ => simp_all

/-- A walk that ends at a vacant name is a way to the directory that is made there. -/
theorem leads_made (hkeep : before.KeepsWays after)
    (h : before.walk follow links place segments = .ok (.vacant directory name))
    (hat : after.at? (directory ++ [name]) = some .directory) :
    ∃ left, after.Leads links place segments left (directory ++ [name]) := by
  fun_induction walk before follow links place segments with
  | case2 _ _ _ ih =>
    obtain ⟨left, hleads⟩ := ih h
    exact ⟨left, .stay hleads⟩
  | case3 _ _ _ _ ih =>
    obtain ⟨left, hleads⟩ := ih h
    exact ⟨left, .up hleads⟩
  | case5 links place segment hstay hup hshort _ =>
    obtain ⟨rfl, rfl⟩ : place = directory ∧ segment = name := by simpa using h
    exact ⟨links, .down hstay hup (le_of_not_gt hshort) hat .here⟩
  | case7 _ _ _ _ hstay hup hshort hdir ih =>
    obtain ⟨left, hleads⟩ := ih h
    exact ⟨left, .down hstay hup (le_of_not_gt hshort) (hkeep.directory _ hdir) hleads⟩
  | case12 _ _ _ hstay hup hshort _ hlink _ _ ih =>
    obtain ⟨left, hleads⟩ := ih h
    exact ⟨left, .jump hstay hup (le_of_not_gt hshort) (hkeep.link _ _ hlink) hleads⟩
  | _ => simp_all

theorem resolve_directory_iff : disk.resolve true path = .ok (.entry top .directory) ↔
    textFault? path = none ∧ disk.Arrives path top := by
  constructor
  · intro h
    obtain ⟨htext, hwalk⟩ := resolveAlong_eq_ok h
    unfold Path.route at hwalk
    split_ifs at hwalk
    · obtain ⟨left, place, hleads, hlast⟩ := exists_leads_of_walk (by simp) hwalk
      obtain rfl : place = top := by simpa [walk] using hlast
      exact ⟨htext, left, hleads⟩
    · exact ⟨htext, leads_of_walk hwalk⟩
  · rintro ⟨htext, left, hleads⟩
    unfold resolve resolveAlong Path.route
    rw [htext]
    simp only
    split_ifs
    · rw [hleads.walk_append (Or.inr rfl)]
      simp [walk]
    · rw [← List.append_nil path.steps, hleads.walk_append (Or.inr rfl)]
      simp [walk]

theorem resolve_of_walk {start : Place} {result : Except Fault Target}
    (htext : textFault? path = none) (hroute : path.route = segments)
    (hstart : disk.start path = start)
    (hwalk : disk.walk follow linkLimit start segments = result) :
    disk.resolve follow path = result := by
  unfold resolve resolveAlong
  rw [htext, hroute, hstart]
  exact hwalk

theorem find?_eq_some_iff {found : Entry} :
    disk.find? path = some (place, found) ↔
      disk.resolve true path = .ok (.entry place found) := by
  unfold find?
  rcases disk.resolve true path with fault | (_ | _) <;> simp

theorem isDirectory_iff : disk.isDirectory path = true ↔
    ∃ place, disk.resolve true path = .ok (.entry place .directory) := by
  unfold isDirectory
  simp only [← find?_eq_some_iff]
  rcases disk.find? path with _ | ⟨place, _ | _ | _⟩ <;> simp

theorem isFile_iff : disk.isFile path = true ↔
    ∃ place data executable,
      disk.resolve true path = .ok (.entry place (.file data executable)) := by
  unfold isFile
  simp only [← find?_eq_some_iff]
  rcases disk.find? path with _ | ⟨place, _ | _ | _⟩ <;> simp

/-- The places of directories with a name of their own that paths lead to. -/
def reached (disk : Disk) (paths : List Path) : Set Place :=
  {place | (∀ name ∈ place.getLast?, Path.IsName name) ∧
    ∃ path ∈ paths, disk.resolve true path = .ok (.entry place .directory)}

theorem reached_subset (hhome : after.home = before.home) (hkeep : before.KeepsWays after)
    (hpaths : above ⊆ paths) : before.reached above ⊆ after.reached paths := by
  rintro place ⟨hname, path, hpath, hresolve⟩
  obtain ⟨htext, harrives⟩ := resolve_directory_iff.mp hresolve
  exact ⟨hname, path, hpaths hpath, resolve_directory_iff.mpr ⟨htext, harrives.keep hhome hkeep⟩⟩

theorem makes_makeDirectory (hpath : path ∈ paths) (h : disk.makeDirectory path = .ok made) :
    Varies ∅ (made.reached paths) disk made := by
  unfold makeDirectory at h
  rcases hresolve : disk.resolveAlong false path path.steps with
    fault | (⟨found, entry⟩ | ⟨directory, name⟩) <;> rw [hresolve] at h
  · contradiction
  · contradiction
  obtain rfl := Except.ok.inj h
  obtain ⟨htext, hwalk⟩ := resolveAlong_eq_ok hresolve
  have hnone := at?_of_walk_vacant hwalk
  have hname := isName_of_walk_vacant (fun _ => Path.of_mem_steps) hwalk
  have hmade : (disk.put (directory ++ [name]) .directory).at? (directory ++ [name]) =
      some .directory := by
    rw [disk.at?_put (by simp), if_pos rfl]
  have hvaries : Varies ∅ {directory ++ [name]} disk
      (disk.put (directory ++ [name]) .directory) := by
    refine ⟨rfl, fun other => ?_⟩
    rw [disk.at?_put (by simp)]
    split_ifs with hother
    · exact Or.inr (Or.inr ⟨hother, hother ▸ hnone, rfl⟩)
    · exact Or.inl rfl
  refine hvaries.mono (Set.empty_subset _) (Set.singleton_subset_iff.mpr
    ⟨by simpa using hname, path, hpath, resolve_directory_iff.mpr ⟨htext, ?_⟩⟩)
  exact leads_made hvaries.keepsWays hwalk hmade

/-- Making a row of directories makes those that are missing, where their paths lead, and changes
nothing else. -/
theorem makes_makeLineage (disk : Disk) (paths : List Path) :
    Varies ∅ ((disk.makeLineage paths).2.reached paths) disk (disk.makeLineage paths).2 := by
  induction paths with
  | nil => exact .refl disk
  | cons path above ih =>
    rw [makeLineage]
    by_cases hempty : path = ""
    · rw [if_pos hempty]
      exact .refl disk
    rw [if_neg hempty]
    cases hmake : disk.makeDirectory path with
    | ok made => exact makes_makeDirectory (by simp) hmake
    | error fault =>
      by_cases hmissing : fault = .missing
      · subst hmissing
        have hsub : above ⊆ path :: above := List.subset_cons_self path above
        rcases habove : disk.makeLineage above with ⟨fault | done, made⟩ <;> rw [habove] at ih
        · exact ih.mono le_rfl (reached_subset rfl ⟨fun _ => id, fun _ _ => id⟩ hsub)
        · have hmade := ih.mono le_rfl (reached_subset rfl ⟨fun _ => id, fun _ _ => id⟩ hsub)
          cases hagain : made.makeDirectory path with
          | ok last =>
            have hlast : Varies ∅ (last.reached (path :: above)) made last :=
              makes_makeDirectory (by simp) hagain
            simp only [hagain]
            exact (ih.mono le_rfl (reached_subset hlast.home hlast.keepsWays hsub)).trans
              (Set.empty_disjoint _) hlast
          | error fault =>
            simp only [hagain]
            split_ifs
            · exact hmade
            · exact hmade
      · have hsame : (if disk.isDirectory path = true then (Except.ok (), disk)
            else (Except.error fault, disk)).2 = disk := by split_ifs <;> rfl
        cases fault with
        | missing => exact absurd rfl hmissing
        | _ =>
          simp only [hsame]
          exact .refl disk

end Disk

end GoldenRun
