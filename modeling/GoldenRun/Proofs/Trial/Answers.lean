import GoldenRun.Machine
import GoldenRun.Proofs.Trial.Sight

/-!
# What requests about a test are answered

The answer to a request about a file of a test, and what becomes of the file, depend on what is
seen where the file is looked for and on nothing else. A directory of a test can be made unless a
file is in its way.
-/

namespace GoldenRun

/-- What is seen where a file is looked for: a fault, or what stands there but for the permission to
execute it. -/
abbrev Sighting := Except Fault (Option Entry)

namespace Sighting

def isFile : Sighting → Bool
  | .ok (some (.file _ _)) => true
  | _ => false

def isDirectory : Sighting → Bool
  | .ok (some .directory) => true
  | _ => false

def content? : Sighting → Option Bytes
  | .ok (some (.file data _)) => some data
  | _ => none

def opened (place : Place) : Sighting → Except Fault Place
  | .ok (some _) => .ok place
  | .ok none => .error .missing
  | .error fault => .error fault

def created (place : Place) : Sighting → Except Fault Place
  | .ok none | .ok (some (.file _ _)) => .ok place
  | .ok (some _) => .error .isADirectory
  | .error fault => .error fault

/-- What stands at the place of a file after it was opened for writing. -/
def afterCreation : Sighting → Option Entry → Option Entry
  | .ok none, _ | .ok (some (.file _ _)), _ => some (.file [] false)
  | _, old => old

def removed : Sighting → Except Fault Unit
  | .ok (some .directory) => .error .isADirectory
  | .ok (some _) => .ok ()
  | .ok none => .error .missing
  | .error fault => .error fault

/-- What stands at the place of a file after it was to be removed. -/
def afterRemoval : Sighting → Option Entry → Option Entry
  | .ok (some (.file _ _)), _ => none
  | _, old => old

end Sighting

/-- What stands where a content was written: nothing comes into being by that. -/
def Entry.filled (data : Bytes) : Option Entry → Option Entry
  | some (.file _ _) => some (.file data false)
  | old => old

namespace Disk

variable {before after disk : Disk} {place : Place}

theorem stream_congr
    (h : (before.at? place).map Entry.plain = (after.at? place).map Entry.plain) :
    before.stream place = after.stream place := by
  unfold stream
  rcases plain_cases h with hsame | ⟨data, x, y, hbefore, hafter⟩
  · rw [hsame]
  · rw [hbefore, hafter]

theorem sets_store (hne : place ≠ []) (data : Bytes) :
    Sets place (Entry.filled data ((disk.at? place).map Entry.plain)) disk
      (disk.store place data) := by
  have hkept := sets_refl disk place
  unfold store
  cases hat : disk.at? place with
  | none =>
    rw [hat] at hkept
    exact hkept
  | some entry =>
    rw [hat] at hkept
    cases entry with
    | file old executable => exact sets_put hne (by rw [hat]; trivial) data executable
    | directory => exact hkept
    | link target => exact hkept

end Disk

namespace Trial.Plot

variable {p : Plot} {disk before after : Disk} {top : Place} {part : Part}

def view (p : Plot) (disk : Disk) (top : Place) (part : Part) : Sighting :=
  (p.sight disk top part).map (·.map Entry.plain)

theorem view_congr (hshelf : before.at? (p.shelfPlace top part) = after.at? (p.shelfPlace top part))
    (hplace : (before.at? (p.place top part)).map Entry.plain =
      (after.at? (p.place top part)).map Entry.plain) :
    p.view before top part = p.view after top part := by
  unfold view sight
  rw [hshelf]
  split
  · rfl
  · split
    · split_ifs
      · rfl
      · exact congrArg Except.ok hplace
    · rfl
    · rfl

theorem at?_of_sight {found : Option Entry} (h : p.sight disk top part = .ok found) :
    disk.at? (p.place top part) = found := by
  unfold sight at h
  split at h
  · contradiction
  · split at h
    · split_ifs at h
      exact Except.ok.inj h
    · contradiction
    · contradiction

/-- No link is found where a file is looked for. -/
theorem On.sight_cases (h : p.On disk top) (part : Part) :
    (∃ fault, p.sight disk top part = .error fault) ∨ p.sight disk top part = .ok none ∨
      p.sight disk top part = .ok (some .directory) ∨
      ∃ data executable, p.sight disk top part = .ok (some (.file data executable)) := by
  cases hs : p.sight disk top part with
  | error fault => exact Or.inl ⟨fault, rfl⟩
  | ok found =>
    cases found with
    | none => exact Or.inr (Or.inl rfl)
    | some entry =>
      cases entry with
      | file data executable => exact Or.inr (Or.inr (Or.inr ⟨data, executable, rfl⟩))
      | directory => exact Or.inr (Or.inr (Or.inl rfl))
      | link target => exact absurd (at?_of_sight hs) (h.linkless _ target)

theorem On.view_cases (h : p.On disk top) (part : Part) :
    (∃ fault, p.view disk top part = .error fault) ∨ p.view disk top part = .ok none ∨
      p.view disk top part = .ok (some .directory) ∨
      ∃ data, p.view disk top part = .ok (some (.file data false)) := by
  unfold view
  rcases h.sight_cases part with ⟨fault, hs⟩ | hs | hs | ⟨data, executable, hs⟩ <;> rw [hs]
  · exact Or.inl ⟨fault, rfl⟩
  · exact Or.inr (Or.inl rfl)
  · exact Or.inr (Or.inr (Or.inl rfl))
  · exact Or.inr (Or.inr (Or.inr ⟨data, rfl⟩))

theorem On.plain? (h : p.On disk top) (part : Part) :
    disk.plain? (p.path part) = (p.view disk top part).toOption.join := by
  unfold Disk.plain? Disk.find? view
  rw [h.resolve true part]
  rcases h.sight_cases part with ⟨fault, hs⟩ | hs | hs | ⟨data, executable, hs⟩ <;> rw [hs] <;> rfl

theorem On.site? (h : p.On disk top) (part : Part) :
    disk.site? (p.path part) = (p.view disk top part).toOption.map fun _ => p.place top part := by
  unfold Disk.site? view
  rw [h.resolve true part, ← shelfPlace_append_leaf]
  rcases h.sight_cases part with ⟨fault, hs⟩ | hs | hs | ⟨data, executable, hs⟩ <;> rw [hs]
  · rfl
  · rfl
  · simp [Except.map, target, Except.toOption, shelfPlace_append_leaf]
  · simp [Except.map, target, Except.toOption, shelfPlace_append_leaf]

theorem On.content? (h : p.On disk top) (part : Part) :
    disk.content? (p.path part) = (p.view disk top part).content? := by
  unfold Disk.content? Disk.find? view
  rw [h.resolve true part]
  rcases h.sight_cases part with ⟨fault, hs⟩ | hs | hs | ⟨data, executable, hs⟩ <;> rw [hs] <;> rfl

theorem On.isFile (h : p.On disk top) (part : Part) :
    disk.isFile (p.path part) = (p.view disk top part).isFile := by
  unfold Disk.isFile Disk.find? view
  rw [h.resolve true part]
  rcases h.sight_cases part with ⟨fault, hs⟩ | hs | hs | ⟨data, executable, hs⟩ <;> rw [hs] <;> rfl

theorem On.isDirectory (h : p.On disk top) (part : Part) :
    disk.isDirectory (p.path part) = (p.view disk top part).isDirectory := by
  unfold Disk.isDirectory Disk.find? view
  rw [h.resolve true part]
  rcases h.sight_cases part with ⟨fault, hs⟩ | hs | hs | ⟨data, executable, hs⟩ <;> rw [hs] <;> rfl

theorem On.openFile (h : p.On disk top) (part : Part) :
    disk.openFile (p.path part) = (p.view disk top part).opened (p.place top part) := by
  unfold Disk.openFile view
  rw [h.resolve true part]
  rcases h.sight_cases part with ⟨fault, hs⟩ | hs | hs | ⟨data, executable, hs⟩ <;> rw [hs] <;> rfl

theorem On.createFile (h : p.On disk top) (part : Part) :
    (disk.createFile (p.path part)).map Prod.fst =
      (p.view disk top part).created (p.place top part) := by
  simp only [Disk.createFile, p.endsInSlash_path part, h.resolve true part, view,
    Bool.false_eq_true, if_false]
  rcases h.sight_cases part with ⟨fault, hs⟩ | hs | hs | ⟨data, executable, hs⟩ <;> rw [hs]
  · rfl
  · simp only [Except.map, target, shelfPlace_append_leaf]
    rfl
  · rfl
  · rfl

theorem On.create (h : p.On disk top) (machine : Machine) (part : Part) :
    (machine.answer (.createFile (p.path part)) disk).1 =
        (p.view disk top part).created (p.place top part) ∧
      Disk.Sets (p.place top part)
        ((p.view disk top part).afterCreation ((disk.at? (p.place top part)).map Entry.plain))
        disk (machine.answer (.createFile (p.path part)) disk).2 := by
  simp only [Machine.answer, Disk.createFile, p.endsInSlash_path part, h.resolve true part, view,
    Bool.false_eq_true, if_false]
  rcases h.sight_cases part with ⟨fault, hs⟩ | hs | hs | ⟨data, executable, hs⟩ <;> rw [hs]
  · exact ⟨rfl, Disk.sets_refl disk _⟩
  · simp only [Except.map, target, shelfPlace_append_leaf]
    exact ⟨rfl, Disk.sets_put place_ne_nil (by rw [at?_of_sight hs]; trivial) [] false⟩
  · exact ⟨rfl, Disk.sets_refl disk _⟩
  · exact ⟨rfl, Disk.sets_put place_ne_nil (by rw [at?_of_sight hs]; trivial) [] executable⟩

theorem On.remove (h : p.On disk top) (machine : Machine) (part : Part) :
    (machine.answer (.removeFile (p.path part)) disk).1 = (p.view disk top part).removed ∧
      Disk.Sets (p.place top part)
        ((p.view disk top part).afterRemoval ((disk.at? (p.place top part)).map Entry.plain))
        disk (machine.answer (.removeFile (p.path part)) disk).2 := by
  simp only [Machine.answer, Disk.removeFile, p.endsInSlash_path part, h.resolveAlong false part,
    view]
  rcases h.sight_cases part with ⟨fault, hs⟩ | hs | hs | ⟨data, executable, hs⟩ <;> rw [hs]
  · exact ⟨rfl, Disk.sets_refl disk _⟩
  · exact ⟨rfl, Disk.sets_refl disk _⟩
  · exact ⟨rfl, Disk.sets_refl disk _⟩
  · exact ⟨rfl, Disk.sets_erase place_ne_nil (by rw [at?_of_sight hs]; trivial)⟩

end Trial.Plot

end GoldenRun
