import GoldenRun.Proofs.Disk.Removal
import GoldenRun.Proofs.Trial.Sight

/-!
# Paths that lead to nothing

Where nothing is at a path, there is a place at most where a file of that path can come into being.
If a file does so, the path leads to it; if none does and nothing else is made, the path still leads
to nothing.
-/

namespace GoldenRun.Disk

/-- A path leads to nothing: nothing has its last name, or something is missing on the way there. -/
def Free (disk : Disk) (path : Path) : Prop :=
  disk.resolveAlong false path path.steps = .error .missing ∨
    ∃ directory name, disk.resolveAlong false path path.steps = .ok (.vacant directory name)

variable {disk before after : Disk} {links : ℕ} {place directory : Place} {segments : List String}
  {follow : Bool} {path : Path} {name : String} {data : Bytes} {executable : Bool}

theorem at?_of_walk_vacant (h : disk.walk follow links place segments =
    .ok (.vacant directory name)) : disk.at? (directory ++ [name]) = none := by
  fun_induction walk disk follow links place segments with
  | case2 _ _ _ ih => exact ih h
  | case3 _ _ _ _ ih => exact ih h
  | case5 _ _ _ _ _ _ hat =>
    obtain ⟨rfl, rfl⟩ : _ = directory ∧ _ = name := by simpa using h
    exact hat
  | case7 _ _ _ _ _ _ _ _ ih => exact ih h
  | case12 _ _ _ _ _ _ _ _ _ _ ih => exact ih h
  | _ => simp_all

/-- A walk that has come to a vacant name comes to the file that was made there. -/
theorem walk_filled (hkeep : before.KeepsWays after)
    (h : before.walk follow links place segments = .ok (.vacant directory name))
    (hat : after.at? (directory ++ [name]) = some (.file data executable)) :
    after.walk follow links place segments =
      .ok (.entry (directory ++ [name]) (.file data executable)) := by
  fun_induction walk before follow links place segments with
  | case2 links place rest ih => rw [walk, if_pos rfl, ih h]
  | case3 links place rest _ ih => rw [walk, if_neg (by decide), if_pos rfl, ih h]
  | case5 links place segment hstay hup hshort _ =>
    obtain ⟨rfl, rfl⟩ : place = directory ∧ segment = name := by simpa using h
    rw [walk, if_neg hstay, if_neg hup, if_neg hshort, hat]
    rfl
  | case7 links place segment rest hstay hup hshort hdir ih =>
    rw [walk, if_neg hstay, if_neg hup, if_neg hshort, hkeep.directory _ hdir]
    exact ih h
  | case12 place segment rest hstay hup hshort target hlink hend links ih =>
    rw [walk, if_neg hstay, if_neg hup, if_neg hshort, hkeep.link _ _ hlink]
    simp only [if_neg hend]
    exact ih h
  | _ => simp_all

/-- Only a link at its end makes a walk depend on whether it follows one there. -/
theorem walk_follow {result : Except Fault Target}
    (h : disk.walk false links place segments = result)
    (hlink : ∀ top target, result ≠ .ok (.entry top (.link target))) :
    disk.walk true links place segments = result := by
  subst h
  fun_induction walk disk false links place segments with
  | case1 => rw [walk]
  | case2 links place rest ih => rw [walk, if_pos rfl, ih hlink]
  | case3 links place rest _ ih => rw [walk, if_neg (by decide), if_pos rfl, ih hlink]
  | case7 links place segment rest hstay hup hshort hdir ih =>
    rw [walk, if_neg hstay, if_neg hup, if_neg hshort, hdir]
    exact ih hlink
  | case10 _ place segment _ _ _ _ target =>
    exact absurd rfl (hlink (place ++ [segment]) target)
  | case12 place segment rest hstay hup hshort target hat hend links ih =>
    rw [walk, if_neg hstay, if_neg hup, if_neg hshort, hat]
    simp only [Bool.true_eq_false, and_false, if_false]
    exact ih hlink
  | _ => simp_all [walk]

theorem Free.fades (h : before.Free path) (hfades : before.Fades after) : after.Free path := by
  rcases hfades.resolveAlong path path.steps with
    hsame | hmissing | ⟨directory, name, _, hvacant, -⟩
  · unfold Free
    rw [hsame]
    exact h
  · exact Or.inl hmissing
  · exact Or.inr ⟨directory, name, hvacant⟩

theorem free_of_missing (hslash : path.endsInSlash = false)
    (h : disk.removeFile path = .error .missing) : disk.Free path := by
  unfold removeFile at h
  rw [hslash] at h
  rcases hresolve : disk.resolveAlong false path path.steps with
    fault | (⟨place, found⟩ | ⟨directory, name⟩) <;> rw [hresolve] at h
  · obtain rfl := Except.error.inj h
    exact Or.inl hresolve
  · cases found <;> simp at h
  · exact Or.inr ⟨directory, name, hresolve⟩

theorem Cleared.free {paths : List Path} (h : Cleared paths before after) (hpath : path ∈ paths)
    (hnamed : before.named? path = some place) : after.Free path := by
  obtain ⟨found, hresolve, hfound⟩ := named?_eq_some_iff.mp hnamed
  rcases h.fades.resolveAlong path path.steps with
    hsame | hmissing | ⟨directory, name, _, hvacant, -⟩
  · have hstill := named?_eq_some_iff.mpr ⟨found, hsame.trans hresolve, hfound⟩
    rw [h.gone path hpath] at hstill
    contradiction
  · exact Or.inl hmissing
  · exact Or.inr ⟨directory, name, hvacant⟩

theorem free_of_answer (machine : Machine) (disk : Disk) (hslash : path.endsInSlash = false) :
    (∃ fault, fault ≠ .missing ∧ disk.removeFile path = .error fault) ∨
    ((machine.answer (.removeFile path) disk).1 = .ok () ∨
      (machine.answer (.removeFile path) disk).1 = .error .missing) ∧
      (machine.answer (.removeFile path) disk).2.Free path := by
  have hcleared := cleared_removeFile machine disk hslash
  rcases removeFile_cases disk hslash with ⟨place, hnamed, hremove⟩ | ⟨-, fault, hremove⟩
  · exact Or.inr ⟨Or.inl (by simp [Machine.answer, hremove]), hcleared.free (by simp) hnamed⟩
  · by_cases hmissing : fault = .missing
    · subst hmissing
      have hanswer : machine.answer (.removeFile path) disk = (.error .missing, disk) := by
        simp [Machine.answer, hremove]
      rw [hanswer]
      exact Or.inr ⟨Or.inr rfl, free_of_missing hslash hremove⟩
    · exact Or.inl ⟨fault, hmissing, hremove⟩

theorem Free.resolve_eq (h : disk.Free path) (hroute : path.route = path.steps) :
    disk.resolve true path = disk.resolveAlong false path path.steps := by
  unfold Free resolveAlong at h
  unfold Disk.resolve resolveAlong
  rw [hroute]
  cases hfault : textFault? path with
  | some fault => rfl
  | none =>
    rw [hfault] at h
    refine walk_follow rfl fun top target hlink => ?_
    rcases h with hmissing | ⟨_, _, hvacant⟩
    · rw [hmissing] at hlink
      contradiction
    · rw [hvacant] at hlink
      simp at hlink

theorem Free.resolve (h : disk.Free path) (hroute : path.route = path.steps) :
    disk.resolve true path = .error .missing ∨
      ∃ directory name, disk.resolve true path = .ok (.vacant directory name) ∧
        disk.at? (directory ++ [name]) = none := by
  rw [h.resolve_eq hroute]
  rcases h with hmissing | ⟨directory, name, hvacant⟩
  · exact Or.inl hmissing
  · exact Or.inr ⟨directory, name, hvacant, at?_of_walk_vacant (resolveAlong_eq_ok hvacant).2⟩

theorem Free.at?_of_site? (h : disk.Free path) (hroute : path.route = path.steps)
    (hsite : disk.site? path = some place) : disk.at? place = none := by
  unfold site? at hsite
  rcases h.resolve hroute with hmissing | ⟨directory, name, hvacant, hat⟩
  · rw [hmissing] at hsite
    contradiction
  · rw [hvacant] at hsite
    obtain rfl := Option.some.inj hsite
    exact hat

theorem Free.openFile (h : disk.Free path) (hroute : path.route = path.steps) :
    disk.openFile path = .error .missing := by
  unfold Disk.openFile
  rcases h.resolve hroute with hmissing | ⟨_, _, hvacant, -⟩
  · rw [hmissing]
  · rw [hvacant]

/-- A change that makes no file only lets files disappear. -/
theorem Varies.fades {files : Set Place} (h : Varies files ∅ before after)
    (hnone : ∀ place ∈ files, after.at? place = none) : before.Fades after := by
  refine ⟨h.home, fun place => ?_⟩
  rcases h.entries place with hsame | ⟨hmem, hold, -⟩ | ⟨hmem, -⟩
  · exact Or.inl hsame
  · refine Or.inr ⟨hnone place hmem, fun hdirectory => ?_⟩
    rw [hdirectory] at hold
    exact hold
  · exact hmem.elim

theorem resolve_filled (hhome : after.home = before.home) (hkeep : before.KeepsWays after)
    (h : before.resolve follow path = .ok (.vacant directory name))
    (hat : after.at? (directory ++ [name]) = some (.file data executable)) :
    after.resolve follow path = .ok (.entry (directory ++ [name]) (.file data executable)) := by
  obtain ⟨hfault, hwalk⟩ := resolveAlong_eq_ok h
  have hstart : after.start path = before.start path := by simp [start, hhome]
  unfold Disk.resolve Disk.resolveAlong
  rw [hfault, hstart]
  exact walk_filled hkeep hwalk hat

/-- Where nothing but the file of a path that leads to nothing may be made, that file is made, or
the path still leads to nothing. -/
theorem Free.vary (h : before.Free path) (hroute : path.route = path.steps)
    (hvaries : Varies {place | before.site? path = some place} ∅ before after) :
    after.Free path ∧ (∀ place, before.site? path = some place → after.at? place = none) ∨
    ∃ place data executable, before.site? path = some place ∧ before.at? place = none ∧
      after.openFile path = .ok place ∧ after.at? place = some (.file data executable) := by
  by_cases hnone : ∀ place, before.site? path = some place → after.at? place = none
  · exact Or.inl ⟨h.fades (hvaries.fades hnone), hnone⟩
  · push Not at hnone
    obtain ⟨place, hsite, hsome⟩ := hnone
    refine Or.inr ⟨place, ?_⟩
    unfold site? at hsite
    rcases h.resolve hroute with hmissing | ⟨directory, name, hvacant, hat⟩
    · rw [hmissing] at hsite
      contradiction
    · rw [hvacant] at hsite
      obtain rfl := Option.some.inj hsite
      have hloose : Loose (after.at? (directory ++ [name])) :=
        hvaries.loose (by rw [hat]; trivial) (Set.notMem_empty _)
      obtain hgone | ⟨data, executable, hfile⟩ := hloose.cases
      · exact absurd hgone hsome
      · refine ⟨data, executable, by rw [site?, hvacant], hat, ?_, hfile⟩
        rw [Disk.openFile, resolve_filled hvaries.home hvaries.keepsWays hvacant hfile]

end GoldenRun.Disk
