import GoldenRun.Proofs.Disk.Contents

/-!
# File systems without links

Entries have names and stand in directories. Where there are no links, a way that does not turn back
passes through directories above the one that it leads to, so it has been open for as long as that
directory is there. Whether a file is found below a directory is told by the entry of its name.
-/

namespace GoldenRun.Disk

/-- Whatever has a name stands in a directory. -/
def Rooted (disk : Disk) : Prop :=
  ∀ place name entry, disk.at? (place ++ [name]) = some entry → disk.at? place = some .directory

theorem rooted_of_entries {disk : Disk}
    (h : ∀ e ∈ disk.entries, disk.at? e.1.dropLast = some .directory) : disk.Rooted := by
  intro place name entry hat
  have hne : place ++ [name] ≠ [] := by simp
  rw [at?, if_neg hne] at hat
  obtain ⟨before, after, hentries, -⟩ := List.lookup_eq_some_iff.mp hat
  have hparent := h (place ++ [name], entry) (by simp [hentries])
  simpa using hparent

/-- A file system in which every entry has a name, stands in a directory, and is no link. -/
structure IsTree (disk : Disk) : Prop where
  names : ∀ entry ∈ disk.entries, ∀ segment ∈ entry.1, Path.IsName segment
  rooted : disk.Rooted
  linkless : disk.Linkless []

variable {disk before after : Disk} {links left : ℕ} {place top : Place} {segments : List String}
  {base : Path} {name : String} {files directories : Set Place}

theorem Rooted.directory_above (h : disk.Rooted) (below : Place)
    (hat : disk.at? (place ++ below) = some .directory) : disk.at? place = some .directory := by
  induction below using List.reverseRecOn with
  | nil => simpa using hat
  | append_singleton below name ih =>
    rw [← List.append_assoc] at hat
    exact ih (h _ _ _ hat)

theorem IsTree.isName_of_at? {entry : Entry} (h : disk.IsTree)
    (hat : disk.at? (place ++ [name]) = some entry) : Path.IsName name := by
  have hne : place ++ [name] ≠ [] := by simp
  rw [at?, if_neg hne] at hat
  obtain ⟨front, rest, hentries, -⟩ := List.lookup_eq_some_iff.mp hat
  have hmem : (place ++ [name], entry) ∈ disk.entries := by simp [hentries]
  exact h.names _ hmem name (by simp)

/-- A way that does not turn back leads downwards. -/
theorem Leads.prefix (h : disk.Leads links place segments left top) (hlinkless : disk.Linkless [])
    (hup : ".." ∉ segments) : place <+: top := by
  induction h with
  | here => exact List.prefix_rfl
  | stay _ ih => exact ih fun hmem => hup (List.mem_cons_of_mem _ hmem)
  | up => exact absurd List.mem_cons_self hup
  | down _ _ _ _ _ ih =>
    exact (List.prefix_append _ _).trans (ih fun hmem => hup (List.mem_cons_of_mem _ hmem))
  | jump _ _ _ hat => exact absurd hat (hlinkless _ _)

/-- A way that does not turn back was open before if it leads to a directory that was there. -/
theorem Leads.earlier (h : after.Leads links place segments left top)
    (hlinkless : after.Linkless []) (hrooted : before.Rooted) (hup : ".." ∉ segments)
    (hat : before.at? top = some .directory) : before.Leads links place segments left top := by
  induction h with
  | here => exact .here
  | stay _ ih => exact .stay (ih (fun hmem => hup (List.mem_cons_of_mem _ hmem)) hat)
  | up => exact absurd List.mem_cons_self hup
  | down hstay hback hshort _ hleads ih =>
    have hrest := fun hmem => hup (List.mem_cons_of_mem _ hmem)
    obtain ⟨below, rfl⟩ := hleads.prefix hlinkless hrest
    exact .down hstay hback hshort (hrooted.directory_above below hat) (ih hrest hat)
  | jump _ _ _ hlink => exact absurd hlink (hlinkless _ _)

theorem Varies.linkless (h : Varies files directories before after)
    (hlinkless : before.Linkless top) : after.Linkless top :=
  fun below target hat => hlinkless below target (h.link hat)

theorem isFile_join_iff (hlinkless : disk.Linkless []) (h : Path.IsName name)
    (hbase : disk.resolve true base = .ok (.entry place .directory)) :
    disk.isFile (base.join name) = true ↔ textFault? (base.join name) = none ∧
      name.utf8ByteSize ≤ nameLimit ∧
      ∃ data executable, disk.at? (place ++ [name]) = some (.file data executable) := by
  obtain ⟨-, left, hleads⟩ := resolve_directory_iff.mp hbase
  have hstart : disk.start (base.join name) = disk.start base := by
    simp [start, Path.isAbsolute_join h]
  have hlink : ∀ target, disk.at? (place ++ [name]) ≠ some (.link target) :=
    hlinkless (place ++ [name])
  rw [isFile_iff]
  unfold resolve resolveAlong
  rw [Path.route_join h, hstart]
  cases textFault? (base.join name) with
  | some fault => simp
  | none =>
    rw [hleads.walk_append (Or.inr rfl), walk_name h hlink]
    by_cases hlong : name.utf8ByteSize > nameLimit
    · simp [hlong]
    · rw [if_neg hlong]
      cases hat : disk.at? (place ++ [name]) with
      | none => simp
      | some entry => cases entry <;> simp [le_of_not_gt hlong]

end GoldenRun.Disk
