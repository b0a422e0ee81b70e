import GoldenRun.Disk.Lookup
import Mathlib

/-!
# Ways through a file system

A row of segments leads from one directory to another, over directories and links. A walk along
more segments follows the way and goes on behind it, and a way stays open as long as the
directories and links on it do.
-/

namespace GoldenRun.Disk

/-- Segments lead from a directory to a directory. The numbers tell how many links may be followed
at the beginning and how many are left at the end. -/
inductive Leads (disk : Disk) : ℕ → Place → List String → ℕ → Place → Prop
  | here {links place} : Leads disk links place [] links place
  | stay {links place rest left top} : Leads disk links place rest left top →
      Leads disk links place ("." :: rest) left top
  | up {links place rest left top} : Leads disk links place.dropLast rest left top →
      Leads disk links place (".." :: rest) left top
  | down {links place segment rest left top} : segment ≠ "." → segment ≠ ".." →
      segment.utf8ByteSize ≤ nameLimit → disk.at? (place ++ [segment]) = some .directory →
      Leads disk links (place ++ [segment]) rest left top →
      Leads disk links place (segment :: rest) left top
  | jump {links place segment target rest left top} : segment ≠ "." → segment ≠ ".." →
      segment.utf8ByteSize ≤ nameLimit → disk.at? (place ++ [segment]) = some (.link target) →
      Leads disk links (if target.isAbsolute then [] else place) (target.route ++ rest) left top →
      Leads disk (links + 1) place (segment :: rest) left top

variable {disk before after : Disk} {links left : ℕ} {place top : Place}
  {segments rest : List String} {follow : Bool} {target : Target}

/-- A path leads to a directory. -/
def Arrives (disk : Disk) (path : Path) (top : Place) : Prop :=
  ∃ left, disk.Leads linkLimit (disk.start path) path.steps left top

theorem Leads.walk_append (h : disk.Leads links place segments left top)
    (hrest : rest ≠ [] ∨ follow = true) :
    disk.walk follow links place (segments ++ rest) = disk.walk follow left top rest := by
  induction h with
  | here => rfl
  | stay _ ih => rw [List.cons_append, walk, if_pos rfl, ih]
  | up _ ih => rw [List.cons_append, walk, if_neg (by decide), if_pos rfl, ih]
  | down hstay hup hshort hat _ ih =>
    rw [List.cons_append, walk, if_neg hstay, if_neg hup, if_neg hshort.not_gt, hat]
    exact ih
  | jump hstay hup hshort hat _ ih =>
    have hend : ∀ segments : List String, ¬(segments ++ rest = [] ∧ follow = false) := by
      rintro segments ⟨hnil, hfollow⟩
      rcases hrest with hrest | hrest
      · exact hrest (List.append_eq_nil_iff.mp hnil).2
      · rw [hrest] at hfollow
        contradiction
    rw [List.cons_append, walk, if_neg hstay, if_neg hup, if_neg hshort.not_gt, hat]
    simp only [if_neg (hend _)]
    rw [← List.append_assoc]
    exact ih

theorem Arrives.unique {path : Path} {top' : Place} (h : disk.Arrives path top)
    (h' : disk.Arrives path top') : top = top' := by
  obtain ⟨left, hleads⟩ := h
  obtain ⟨left', hleads'⟩ := h'
  have hwalk := hleads.walk_append (Or.inr rfl : ([] : List String) ≠ [] ∨ true = true)
  rw [hleads'.walk_append (Or.inr rfl)] at hwalk
  simpa [walk] using hwalk.symm

theorem eq_nil_of_singleton {segment : String} (hrest : rest ≠ [])
    (h : [segment] = segments ++ rest) : segments = [] := by
  have hlen := congrArg List.length h
  have hpos := List.length_pos_iff.mpr hrest
  simp only [List.length_cons, List.length_nil, List.length_append] at hlen
  exact List.length_eq_zero_iff.mp (by omega)

/-- A walk that does not fail takes a way along its first segments. -/
theorem exists_leads_of_walk (hrest : rest ≠ [])
    (h : disk.walk follow links place (segments ++ rest) = .ok target) :
    ∃ left top, disk.Leads links place segments left top ∧
      disk.walk follow left top rest = .ok target := by
  -- Without segments to pass the way is trivial, so the induction may leave that case aside.
  have finish : ∀ {links place all segments}, disk.walk follow links place all = .ok target →
      all = segments ++ rest →
      (segments = [] ∨ ∃ left top, disk.Leads links place segments left top ∧
        disk.walk follow left top rest = .ok target) →
      ∃ left top, disk.Leads links place segments left top ∧
        disk.walk follow left top rest = .ok target := by
    rintro links place all segments hwalk rfl (rfl | hleads)
    · exact ⟨links, place, .here, hwalk⟩
    · exact hleads
  refine finish h rfl ?_
  obtain ⟨all, hall⟩ : ∃ all, all = segments ++ rest := ⟨_, rfl⟩
  rw [← hall] at h
  fun_induction walk disk follow links place all generalizing segments with
  | case1 => exact Or.inl (List.append_eq_nil_iff.mp hall.symm).1
  | case2 links place others ih =>
    cases segments with
    | nil => exact Or.inl rfl
    | cons segment segments =>
      obtain ⟨rfl, hothers⟩ := List.cons.inj hall
      obtain ⟨left, top, hleads, hwalk⟩ := finish h hothers (ih h hothers)
      exact Or.inr ⟨left, top, .stay hleads, hwalk⟩
  | case3 links place others _ ih =>
    cases segments with
    | nil => exact Or.inl rfl
    | cons segment segments =>
      obtain ⟨rfl, hothers⟩ := List.cons.inj hall
      obtain ⟨left, top, hleads, hwalk⟩ := finish h hothers (ih h hothers)
      exact Or.inr ⟨left, top, .up hleads, hwalk⟩
  | case7 links place segment others hstay hup hshort hat ih =>
    cases segments with
    | nil => exact Or.inl rfl
    | cons first segments =>
      obtain ⟨rfl, hothers⟩ := List.cons.inj hall
      obtain ⟨left, top, hleads, hwalk⟩ := finish h hothers (ih h hothers)
      exact Or.inr ⟨left, top, .down hstay hup (le_of_not_gt hshort) hat hleads, hwalk⟩
  | case12 place segment others hstay hup hshort target hat _ links ih =>
    cases segments with
    | nil => exact Or.inl rfl
    | cons first segments =>
      obtain ⟨rfl, hothers⟩ := List.cons.inj hall
      have hroute : target.route ++ others = (target.route ++ segments) ++ rest := by
        rw [hothers, List.append_assoc]
        rfl
      obtain ⟨left, top, hleads, hwalk⟩ := finish h hroute (ih h hroute)
      exact Or.inr ⟨left, top, .jump hstay hup (le_of_not_gt hshort) hat hleads, hwalk⟩
  | case5 => exact Or.inl (eq_nil_of_singleton hrest hall)
  | case8 => exact Or.inl (eq_nil_of_singleton hrest hall)
  | case10 _ _ _ _ _ _ _ _ _ hend =>
    obtain ⟨rfl, -⟩ := hend
    exact Or.inl (eq_nil_of_singleton hrest hall)
  | _ => contradiction

/-- Directories stay directories, and links stay the same links. -/
structure KeepsWays (before after : Disk) : Prop where
  directory : ∀ place, before.at? place = some .directory → after.at? place = some .directory
  link : ∀ place target, before.at? place = some (.link target) →
    after.at? place = some (.link target)

theorem Leads.keep (hkeep : before.KeepsWays after)
    (h : before.Leads links place segments left top) :
    after.Leads links place segments left top := by
  induction h with
  | here => exact .here
  | stay _ ih => exact .stay ih
  | up _ ih => exact .up ih
  | down hstay hup hshort hat _ ih => exact .down hstay hup hshort (hkeep.directory _ hat) ih
  | jump hstay hup hshort hat _ ih => exact .jump hstay hup hshort (hkeep.link _ _ hat) ih

theorem Arrives.keep (hhome : after.home = before.home) (hkeep : before.KeepsWays after)
    {path : Path} (h : before.Arrives path top) : after.Arrives path top := by
  obtain ⟨left, hleads⟩ := h
  refine ⟨left, ?_⟩
  have hstart : after.start path = before.start path := by simp [start, hhome]
  rw [hstart]
  exact hleads.keep hkeep

theorem at?_of_walk {found : Entry}
    (h : disk.walk follow links place segments = .ok (.entry top found))
    (hfound : found ≠ .directory) : disk.at? top = some found := by
  fun_induction walk disk follow links place segments with
  | case1 =>
    obtain ⟨-, rfl⟩ : _ = top ∧ Entry.directory = found := by simpa using h
    exact absurd rfl hfound
  | case2 _ _ _ ih => exact ih h
  | case3 _ _ _ _ ih => exact ih h
  | case7 _ _ _ _ _ _ _ _ ih => exact ih h
  | case8 _ _ _ _ _ _ _ _ hat =>
    obtain ⟨rfl, rfl⟩ : _ = top ∧ _ = found := by simpa using h
    exact hat
  | case10 _ _ _ _ _ _ _ _ hat =>
    obtain ⟨rfl, rfl⟩ : _ = top ∧ _ = found := by simpa using h
    exact hat
  | case12 _ _ _ _ _ _ _ _ _ _ ih => exact ih h
  | _ => simp_all

/-- A walk to a file goes on to end there, whatever is written to the file. -/
theorem walk_rewritten (hkeep : before.KeepsWays after) {old data : Bytes}
    {executable executable' : Bool}
    (h : before.walk true links place segments = .ok (.entry top (.file old executable)))
    (hat : after.at? top = some (.file data executable')) :
    after.walk true links place segments = .ok (.entry top (.file data executable')) := by
  fun_induction walk before true links place segments with
  | case2 links place rest ih => rw [walk, if_pos rfl, ih h]
  | case3 links place rest _ ih => rw [walk, if_neg (by decide), if_pos rfl, ih h]
  | case7 links place segment rest hstay hup hshort hdir ih =>
    rw [walk, if_neg hstay, if_neg hup, if_neg hshort, hkeep.directory _ hdir]
    exact ih h
  | case8 links place segment hstay hup hshort found mode hfile =>
    obtain ⟨rfl, -⟩ : place ++ [segment] = top ∧ found = old ∧ mode = executable := by
      simpa using h
    rw [walk, if_neg hstay, if_neg hup, if_neg hshort, hat]
    rfl
  | case12 place segment rest hstay hup hshort target hlink hend links ih =>
    rw [walk, if_neg hstay, if_neg hup, if_neg hshort, hkeep.link _ _ hlink]
    simp only [if_neg hend]
    exact ih h
  | _ => simp_all

theorem walk_keep (hkeep : before.KeepsWays after) {data : Bytes} {executable : Bool}
    (h : before.walk true links place segments = .ok (.entry top (.file data executable)))
    (hat : after.at? top = before.at? top) :
    after.walk true links place segments = .ok (.entry top (.file data executable)) :=
  walk_rewritten hkeep h (hat.trans (at?_of_walk h (by simp)))

end GoldenRun.Disk
