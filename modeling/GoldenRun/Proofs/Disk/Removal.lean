import GoldenRun.Machine
import GoldenRun.Proofs.Disk.Walk

/-!
# Files that are removed

Where files and links disappear and nothing else happens, a path goes on to lead where it led, or it
ends at a name that has become vacant, or it breaks off at a link that is gone. In no case does it
come to name another entry. Removing the files of some paths one after the other therefore removes
the entries that were named at the beginning, and no others.
-/

namespace GoldenRun.Disk

/-- The place of the file or link that a path names. A link is not followed. -/
def named? (disk : Disk) (path : Path) : Option Place :=
  match disk.resolveAlong false path path.steps with
  | .ok (.entry place found) => if found = .directory then none else some place
  | _ => none

/-- Some files and links may have disappeared, and nothing else has happened. -/
structure Fades (before after : Disk) : Prop where
  home : after.home = before.home
  entries : ∀ place, after.at? place = before.at? place ∨
    after.at? place = none ∧ before.at? place ≠ some .directory

/-- The files and links that given paths named have been removed, as far as the ways to them were
still open, and nothing else has happened. -/
structure Cleared (paths : List Path) (before after : Disk) : Prop where
  home : after.home = before.home
  gone : ∀ path ∈ paths, after.named? path = none
  removed : ∀ path ∈ paths, ∀ place, before.named? path = some place →
    after.at? place = none ∨ after.resolveAlong false path path.steps = .error .missing
  kept : ∀ place, after.at? place = before.at? place ∨
    after.at? place = none ∧ ∃ path ∈ paths, before.named? path = some place

variable {disk before after : Disk} {links : ℕ} {place : Place} {segments : List String}
  {follow : Bool} {path : Path}

theorem named?_eq_some_iff : disk.named? path = some place ↔
    ∃ found, disk.resolveAlong false path path.steps = .ok (.entry place found) ∧
      found ≠ .directory := by
  unfold named?
  constructor
  · intro h
    split at h
    · next other found hresolve =>
      split_ifs at h with hfound
      obtain rfl := Option.some.inj h
      exact ⟨found, hresolve, hfound⟩
    · contradiction
  · rintro ⟨found, hresolve, hfound⟩
    rw [hresolve]
    exact if_neg hfound

theorem resolveAlong_eq_ok {target : Target}
    (h : disk.resolveAlong follow path segments = .ok target) :
    textFault? path = none ∧
      disk.walk follow linkLimit (disk.start path) segments = .ok target := by
  unfold resolveAlong at h
  split at h
  · contradiction
  · next hfault => exact ⟨hfault, h⟩

theorem at?_of_named? (h : disk.named? path = some place) :
    ∃ found, disk.at? place = some found ∧ found ≠ .directory := by
  obtain ⟨found, hresolve, hfound⟩ := named?_eq_some_iff.mp h
  exact ⟨found, at?_of_walk (resolveAlong_eq_ok hresolve).2 hfound, hfound⟩

theorem walk_of_at?_none {segment : String} {rest : List String} (hstay : segment ≠ ".")
    (hup : segment ≠ "..") (hshort : ¬segment.utf8ByteSize > nameLimit)
    (hat : disk.at? (place ++ [segment]) = none) :
    disk.walk follow links place (segment :: rest) =
      if rest = [] then .ok (.vacant place segment) else .error .missing := by
  rw [walk, if_neg hstay, if_neg hup, if_neg hshort, hat]

/-- Where files have disappeared, a walk that follows no link at its end comes to the same end, or
to the name of an entry that is gone, or no further than to a link that is gone. -/
theorem Fades.walk (h : Fades before after) :
    after.walk false links place segments = before.walk false links place segments ∨
      after.walk false links place segments = .error .missing ∨
      ∃ directory name found,
        after.walk false links place segments = .ok (.vacant directory name) ∧
        before.walk false links place segments = .ok (.entry (directory ++ [name]) found) ∧
        after.at? (directory ++ [name]) = none := by
  fun_induction Disk.walk before false links place segments with
  | case1 => exact Or.inl (by rw [Disk.walk])
  | case2 links place rest ih => simpa only [Disk.walk, if_true] using ih
  | case3 links place rest _ ih => simpa [Disk.walk] using ih
  | case4 links place segment rest hstay hup hlong =>
    exact Or.inl (by rw [Disk.walk, if_neg hstay, if_neg hup, if_pos hlong])
  | case5 links place segment hstay hup hshort hat =>
    have hnone : after.at? (place ++ [segment]) = none := by
      rcases h.entries (place ++ [segment]) with hsame | ⟨hgone, -⟩
      · rw [hsame, hat]
      · exact hgone
    exact Or.inl (walk_of_at?_none hstay hup hshort hnone)
  | case6 links place segment rest hstay hup hshort hat hrest =>
    have hnone : after.at? (place ++ [segment]) = none := by
      rcases h.entries (place ++ [segment]) with hsame | ⟨hgone, -⟩
      · rw [hsame, hat]
      · exact hgone
    exact Or.inl ((walk_of_at?_none hstay hup hshort hnone).trans (if_neg hrest))
  | case7 links place segment rest hstay hup hshort hdir ih =>
    have hsame : after.at? (place ++ [segment]) = some .directory := by
      rcases h.entries (place ++ [segment]) with hsame | ⟨-, hnot⟩
      · rw [hsame, hdir]
      · exact absurd hdir hnot
    rw [Disk.walk, if_neg hstay, if_neg hup, if_neg hshort, hsame]
    exact ih
  | case8 links place segment hstay hup hshort data executable hat =>
    rcases h.entries (place ++ [segment]) with hsame | ⟨hgone, -⟩
    · exact Or.inl (by rw [Disk.walk, if_neg hstay, if_neg hup, if_neg hshort, hsame, hat]; rfl)
    · exact Or.inr (Or.inr ⟨place, segment, _, walk_of_at?_none hstay hup hshort hgone, rfl, hgone⟩)
  | case9 links place segment rest hstay hup hshort data executable hat hrest =>
    rcases h.entries (place ++ [segment]) with hsame | ⟨hgone, -⟩
    · refine Or.inl ?_
      rw [Disk.walk, if_neg hstay, if_neg hup, if_neg hshort, hsame, hat]
      exact if_neg hrest
    · exact Or.inr (Or.inl ((walk_of_at?_none hstay hup hshort hgone).trans (if_neg hrest)))
  | case10 links place segment rest hstay hup hshort target hat hend =>
    obtain ⟨rfl, -⟩ := hend
    rcases h.entries (place ++ [segment]) with hsame | ⟨hgone, -⟩
    · refine Or.inl ?_
      rw [Disk.walk, if_neg hstay, if_neg hup, if_neg hshort, hsame, hat]
      exact if_pos ⟨rfl, rfl⟩
    · exact Or.inr (Or.inr ⟨place, segment, _, walk_of_at?_none hstay hup hshort hgone, rfl, hgone⟩)
  | case11 place segment rest hstay hup hshort target hat hend =>
    have hrest : rest ≠ [] := fun hnil => hend ⟨hnil, rfl⟩
    rcases h.entries (place ++ [segment]) with hsame | ⟨hgone, -⟩
    · refine Or.inl ?_
      rw [Disk.walk, if_neg hstay, if_neg hup, if_neg hshort, hsame, hat]
      exact if_neg hend
    · exact Or.inr (Or.inl ((walk_of_at?_none hstay hup hshort hgone).trans (if_neg hrest)))
  | case12 place segment rest hstay hup hshort target hat hend links ih =>
    have hrest : rest ≠ [] := fun hnil => hend ⟨hnil, rfl⟩
    rcases h.entries (place ++ [segment]) with hsame | ⟨hgone, -⟩
    · rw [Disk.walk, if_neg hstay, if_neg hup, if_neg hshort, hsame, hat]
      simp only [hrest, false_and, if_false]
      exact ih
    · exact Or.inr (Or.inl ((walk_of_at?_none hstay hup hshort hgone).trans (if_neg hrest)))

theorem Fades.resolveAlong (h : Fades before after) (path : Path) (segments : List String) :
    after.resolveAlong false path segments = before.resolveAlong false path segments ∨
      after.resolveAlong false path segments = .error .missing ∨
      ∃ directory name found,
        after.resolveAlong false path segments = .ok (.vacant directory name) ∧
        before.resolveAlong false path segments = .ok (.entry (directory ++ [name]) found) ∧
        after.at? (directory ++ [name]) = none := by
  have hstart : after.start path = before.start path := by simp [start, h.home]
  unfold Disk.resolveAlong
  rw [hstart]
  cases textFault? path with
  | some fault => exact Or.inl rfl
  | none => exact h.walk

theorem Fades.named? (h : Fades before after) (hnamed : after.named? path = some place) :
    before.named? path = some place := by
  obtain ⟨found, hresolve, hfound⟩ := named?_eq_some_iff.mp hnamed
  rcases h.resolveAlong path path.steps with hsame | hmissing | ⟨_, _, _, hvacant, -⟩
  · exact named?_eq_some_iff.mpr ⟨found, hsame ▸ hresolve, hfound⟩
  · rw [hmissing] at hresolve
    contradiction
  · rw [hvacant] at hresolve
    simp at hresolve

theorem ne_nil_of_named? (h : disk.named? path = some place) : place ≠ [] := by
  rintro rfl
  obtain ⟨found, hat, hfound⟩ := at?_of_named? h
  rw [at?_nil] at hat
  exact hfound (Option.some.inj hat).symm

theorem fades_erase (h : disk.named? path = some place) : Fades disk (disk.erase place) := by
  obtain ⟨found, hat, hfound⟩ := at?_of_named? h
  refine ⟨rfl, fun other => ?_⟩
  rw [disk.at?_erase (ne_nil_of_named? h)]
  split_ifs with hother
  · subst hother
    exact Or.inr ⟨rfl, by rw [hat]; simpa using hfound⟩
  · exact Or.inl rfl

/-- Where nothing but named files is gone, and no path names one any more, the ways to the named
files need not be looked at again. -/
theorem cleared_of_kept {paths : List Path} (hhome : after.home = before.home)
    (hgone : ∀ path ∈ paths, after.named? path = none)
    (hkept : ∀ place, after.at? place = before.at? place ∨
      after.at? place = none ∧ ∃ path ∈ paths, before.named? path = some place) :
    before.Fades after ∧ Cleared paths before after := by
  have hfades : before.Fades after := by
    refine ⟨hhome, fun place => ?_⟩
    rcases hkept place with hsame | ⟨hnone, path, -, hnamed⟩
    · exact Or.inl hsame
    · obtain ⟨found, hat, hfound⟩ := at?_of_named? hnamed
      exact Or.inr ⟨hnone, by rw [hat]; simpa using hfound⟩
  refine ⟨hfades, hhome, hgone, fun path hpath place hnamed => ?_, hkept⟩
  obtain ⟨found, hresolve, hfound⟩ := named?_eq_some_iff.mp hnamed
  rcases hfades.resolveAlong path path.steps with hsame | hmissing | ⟨_, _, _, -, hentry, hnone⟩
  · have hstill := named?_eq_some_iff.mpr ⟨found, hsame.trans hresolve, hfound⟩
    rw [hgone path hpath] at hstill
    contradiction
  · exact Or.inr hmissing
  · rw [hresolve] at hentry
    obtain ⟨rfl, -⟩ : place = _ ∧ found = _ := by simpa using hentry
    exact Or.inl hnone

theorem Cleared.fades {paths : List Path} (h : Cleared paths before after) : Fades before after :=
  (cleared_of_kept h.home h.gone h.kept).1

theorem cleared_nil (disk : Disk) : Cleared [] disk disk :=
  ⟨rfl, by simp, by simp, fun _ => Or.inl rfl⟩

theorem Cleared.append {paths paths' : List Path} {between : Disk}
    (h : Cleared paths before between) (h' : Cleared paths' between after) :
    Cleared (paths ++ paths') before after := by
  refine (cleared_of_kept (h'.home.trans h.home) ?_ fun place => ?_).2
  · intro path hpath
    rcases List.mem_append.mp hpath with hpath | hpath
    · cases hnamed : after.named? path with
      | none => rfl
      | some place =>
        have hbetween := h'.fades.named? hnamed
        rw [h.gone path hpath] at hbetween
        contradiction
    · exact h'.gone path hpath
  · rcases h'.kept place with hsame | ⟨hnone, path, hpath, hnamed⟩
    · rw [hsame]
      rcases h.kept place with hkept | ⟨hnone, path, hpath, hnamed⟩
      · exact Or.inl hkept
      · exact Or.inr ⟨hnone, path, List.mem_append_left paths' hpath, hnamed⟩
    · exact Or.inr ⟨hnone, path, List.mem_append_right paths hpath, h.fades.named? hnamed⟩

theorem removeFile_cases (disk : Disk) (hslash : path.endsInSlash = false) :
    (∃ place, disk.named? path = some place ∧ disk.removeFile path = .ok (disk.erase place)) ∨
    disk.named? path = none ∧ ∃ fault, disk.removeFile path = .error fault := by
  simp only [removeFile, Disk.named?, hslash, Bool.false_eq_true, if_false]
  rcases disk.resolveAlong false path path.steps with fault | (⟨place, entry⟩ | ⟨directory, name⟩)
  · exact Or.inr ⟨rfl, fault, rfl⟩
  · cases entry with
    | file data executable => exact Or.inl ⟨place, rfl, rfl⟩
    | directory => exact Or.inr ⟨rfl, .isADirectory, rfl⟩
    | link target => exact Or.inl ⟨place, rfl, rfl⟩
  · exact Or.inr ⟨rfl, .missing, rfl⟩

theorem cleared_removeFile (machine : Machine) (disk : Disk) (hslash : path.endsInSlash = false) :
    Cleared [path] disk (machine.answer (.removeFile path) disk).2 := by
  unfold Machine.answer
  rcases removeFile_cases disk hslash with ⟨place, hnamed, hremove⟩ | ⟨hnone, _, hremove⟩
  · simp only [hremove]
    have hne := ne_nil_of_named? hnamed
    refine (cleared_of_kept (fades_erase hnamed).home ?_ fun other => ?_).2
    · intro other hother
      obtain rfl := List.mem_singleton.mp hother
      cases hstill : (disk.erase place).named? other with
      | none => rfl
      | some top =>
        obtain rfl := Option.some.inj (((fades_erase hnamed).named? hstill).symm.trans hnamed)
        obtain ⟨_, hsome, -⟩ := at?_of_named? hstill
        rw [disk.at?_erase hne, if_pos rfl] at hsome
        contradiction
    · rw [disk.at?_erase hne]
      split_ifs with hother
      · exact Or.inr ⟨rfl, path, by simp, hother ▸ hnamed⟩
      · exact Or.inl rfl
  · simp only [hremove]
    refine (cleared_of_kept rfl ?_ fun _ => Or.inl rfl).2
    intro other hother
    rw [List.mem_singleton.mp hother]
    exact hnone

end GoldenRun.Disk
