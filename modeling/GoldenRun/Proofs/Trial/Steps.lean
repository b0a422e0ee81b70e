import GoldenRun.Proofs.Job.Attempt
import GoldenRun.Proofs.Trial.Pipeline

/-!
# The steps of a run

Where the files of a test can be made and its tools can be started, each step of a run is told by
the failure or the value that it comes to and by the contents that it leaves. What the files held
before plays no part.
-/

namespace GoldenRun

namespace Disk

def prepare (disk : Disk) (path : Path) : Except Fault Unit × Disk :=
  match path.directory? with
  | none => (.ok (), disk)
  | some directory => disk.makeDirectories directory

/-- A path leads to a regular file or to nothing, and a file can be made there once its directory
is made. -/
def Receives (disk : Disk) (path : Path) : Prop :=
  ∃ made opened, disk.prepare path = (.ok (), made) ∧ made.createFile path = .ok opened

end Disk

namespace Machine

variable {machine : Machine} {disk : Disk} {command : Launch} {deed : Deed}

theorem attempt_launch (tool : Tool)
    (h : (machine.launch command disk).1 = .ok deed.finished) :
    machine.attempt (Attempt.launch tool command) disk =
      (.ok (deed.status, deed.diagnostics), (machine.launch command disk).2) := by
  have hanswer : (machine.answer (.launch command) disk).1 = .ok deed.finished := h
  unfold Attempt.launch
  rw [attempt_ask_bind, hanswer, attempt_bind_ok (attempt_granted_ok _ _)]
  rfl

theorem attempt_launchChecked (tool : Tool)
    (h : (machine.launch command disk).1 = .ok deed.finished) :
    machine.attempt (Attempt.launchChecked tool command) disk =
      ((deed.checked tool).map fun _ => (), (machine.launch command disk).2) := by
  unfold Attempt.launchChecked
  rw [attempt_bind_ok (attempt_launch tool h)]
  unfold Deed.checked
  by_cases hsuccess : deed.status.isSuccess = true <;> simp [hsuccess, Except.map]

end Machine

namespace Trial.Plot

variable {p : Plot} {disk before after : Disk} {top : Place} {part : Part} {seen : Option Entry}

theorem at?_of_view (h : p.view disk top part = .ok seen) :
    (disk.at? (p.place top part)).map Entry.plain = seen := by
  unfold view at h
  cases hsight : p.sight disk top part with
  | error fault => simp [hsight, Except.map] at h
  | ok found =>
    rw [hsight] at h
    rw [at?_of_sight hsight]
    exact Except.ok.inj h

theorem shelf_of_view (h : p.view disk top part = .ok seen) :
    Disk.textFault? (p.path part) = none ∧
      disk.at? (p.shelfPlace top part) = some .directory ∧
      (p.leaf part).utf8ByteSize ≤ Disk.nameLimit := by
  unfold view sight at h
  split at h
  · contradiction
  · next htext =>
    split at h
    · next hshelf =>
      split_ifs at h with hlong
      · contradiction
      · exact ⟨htext, hshelf, le_of_not_gt hlong⟩
    · contradiction
    · contradiction

theorem view_of_shelf (htext : Disk.textFault? (p.path part) = none)
    (hshort : (p.leaf part).utf8ByteSize ≤ Disk.nameLimit)
    (hshelf : disk.at? (p.shelfPlace top part) = some .directory) :
    p.view disk top part = .ok ((disk.at? (p.place top part)).map Entry.plain) := by
  unfold view sight
  rw [htext, hshelf]
  simp only [if_neg hshort.not_gt]
  rfl

theorem view_keep (halters : p.Alters top before after)
    (hplace : (after.at? (p.place top part)).map Entry.plain =
      (before.at? (p.place top part)).map Entry.plain)
    (h : p.view before top part = .ok seen) : p.view after top part = .ok seen := by
  obtain ⟨htext, hshelf, hshort⟩ := shelf_of_view h
  rw [view_of_shelf htext hshort (halters.keepsWays.directory _ hshelf), hplace, at?_of_view h]

theorem view_sets {new : Option Entry} (h : p.view before top part = .ok seen)
    (hsets : Disk.Sets (p.place top part) new before after) :
    p.view after top part = .ok new := by
  obtain ⟨htext, hshelf, hshort⟩ := shelf_of_view h
  rw [view_of_shelf htext hshort (hsets.varies.keepsWays.directory _ hshelf), hsets.here]

theorem view_sets_other {part' : Part} {new : Option Entry}
    (hsets : Disk.Sets (p.place top part) new before after) (hpart : part.IsGenerated)
    (h : p.view before top part' = .ok seen) (hne : part' ≠ part) :
    p.view after top part' = .ok seen := by
  refine view_keep (alters_of_sets hsets hpart) ?_ h
  rw [hsets.elsewhere fun heq => hne (place_inj heq).2.2]

theorem stream_of_view {data : Bytes} (h : p.view disk top part = .ok (some (.file data false))) :
    disk.stream (p.place top part) = ⟨data, none⟩ := by
  have hat := at?_of_view h
  unfold Disk.stream
  rcases hentry : disk.at? (p.place top part) with _ | (_ | _ | _) <;>
    simp [hentry, Entry.plain] at hat
  rw [hat]

/-- A file can be made, once its shelf is there. -/
structure Ready (p : Plot) (disk : Disk) (top : Place) (part : Part) : Prop where
  shelfText : Disk.textFault? (p.shelfPath part) = none
  text : Disk.textFault? (p.path part) = none
  short : (p.leaf part).utf8ByteSize ≤ Disk.nameLimit
  shelf : disk.at? (p.shelfPlace top part) = none ∨
    disk.at? (p.shelfPlace top part) = some .directory
  loose : Loose (disk.at? (p.place top part))

theorem Ready.vary (h : p.Ready before top part) (halters : p.Alters top before after) :
    p.Ready after top part := by
  refine ⟨h.shelfText, h.text, h.short, ?_, halters.loose h.loose place_not_mem_shelves⟩
  rcases halters.entries (p.shelfPlace top part) with hsame | ⟨hmem, -⟩ | ⟨-, -, hmade⟩
  · rw [hsame]
    exact h.shelf
  · exact absurd hmem shelf_not_mem_files
  · exact Or.inr hmade

theorem Ready.view (h : p.Ready disk top part)
    (hshelf : disk.at? (p.shelfPlace top part) = some .directory) :
    p.view disk top part = .ok ((disk.at? (p.place top part)).map Entry.plain) :=
  view_of_shelf h.text h.short hshelf

theorem prepare_path (disk : Disk) (part : Part) :
    disk.prepare (p.path part) = disk.makeDirectories (p.shelfPath part) := by
  unfold Disk.prepare
  rw [p.directory?_path part]

/-- Making the shelf of a file, as far as that can be done. -/
theorem On.prepare (h : p.On disk top)
    (hapart : part.IsApart ∨ disk.at? (p.shelfPlace top part) = some .directory) :
    ((disk.prepare (p.path part)).1 = .ok () ↔ Disk.textFault? (p.shelfPath part) = none ∧
      (disk.at? (p.shelfPlace top part) = none ∨
        disk.at? (p.shelfPlace top part) = some .directory)) ∧
    ((disk.prepare (p.path part)).1 = .ok () → p.Alters top disk (disk.prepare (p.path part)).2 ∧
      (disk.prepare (p.path part)).2.at? (p.shelfPlace top part) = some .directory ∧
      ∀ part', (disk.prepare (p.path part)).2.at? (p.place top part') =
        disk.at? (p.place top part')) := by
  rw [prepare_path, h.makeDirectories part]
  cases htext : Disk.textFault? (p.shelfPath part) with
  | some fault => simp
  | none =>
    cases hshelf : disk.at? (p.shelfPlace top part) with
    | none =>
      rw [hshelf] at hapart
      refine ⟨by simp, fun _ => ⟨alters_of_put_shelf hshelf (by simpa using hapart), ?_, ?_⟩⟩
      · rw [disk.at?_put shelfPlace_ne_nil, if_pos rfl]
      · intro part'
        rw [disk.at?_put shelfPlace_ne_nil, if_neg place_ne_shelfPlace]
    | some entry =>
      cases entry with
      | directory => exact ⟨by simp, fun _ => ⟨.refl p top disk, hshelf, fun _ => rfl⟩⟩
      | file data executable => simp
      | link target => simp

theorem ready_iff_receives (hon : p.On disk top)
    (hapart : part.IsApart ∨ disk.at? (p.shelfPlace top part) = some .directory) :
    p.Ready disk top part ↔ disk.Receives (p.path part) := by
  obtain ⟨hmakes, hmade⟩ := hon.prepare hapart
  constructor
  · intro h
    have hok := hmakes.mpr ⟨h.shelfText, h.shelf⟩
    obtain ⟨halters, hshelf, hplaces⟩ := hmade hok
    have hview := (h.vary halters).view hshelf
    have hcreate := (hon.vary halters).createFile part
    cases hcreated : (disk.prepare (p.path part)).2.createFile (p.path part) with
    | ok opened => exact ⟨_, opened, Prod.ext hok rfl, hcreated⟩
    | error fault =>
      rw [hcreated, hview] at hcreate
      rcases (h.vary halters).loose.cases with hat | ⟨data, executable, hat⟩ <;>
        rw [hat] at hcreate <;> contradiction
  · rintro ⟨made, opened, hprepare, hcreate⟩
    rw [hprepare] at hmakes hmade
    obtain ⟨htext, hshelf⟩ := hmakes.mp rfl
    obtain ⟨halters, -, hplaces⟩ := hmade rfl
    have hcreated := (hon.vary halters).createFile part
    rw [hcreate] at hcreated
    have hready : ∀ seen, p.view made top part = .ok seen → Loose seen →
        p.Ready disk top part := by
      intro seen hview hloose
      obtain ⟨hpath, -, hshort⟩ := shelf_of_view hview
      rw [← at?_of_view hview, loose_plain, hplaces] at hloose
      exact ⟨htext, hpath, hshort, hshelf, hloose⟩
    rcases (hon.vary halters).view_cases part with ⟨fault, hview⟩ | hview | hview | ⟨data, hview⟩
    · rw [hview] at hcreated
      contradiction
    · exact hready _ hview trivial
    · rw [hview] at hcreated
      contradiction
    · exact hready _ hview trivial

theorem Ready.prepare (h : p.Ready disk top part) (hon : p.On disk top)
    (hapart : part.IsApart ∨ disk.at? (p.shelfPlace top part) = some .directory)
    (machine : Machine) (role : Role) :
    ∃ after, machine.attempt (Attempt.prepareDirectory role (p.path part)) disk = (.ok (), after) ∧
      p.Alters top disk after ∧ after.at? (p.shelfPlace top part) = some .directory ∧
      ∀ part', after.at? (p.place top part') = disk.at? (p.place top part') := by
  obtain ⟨hmakes, hmade⟩ := hon.prepare hapart
  have hok := hmakes.mpr ⟨h.shelfText, h.shelf⟩
  refine ⟨_, ?_, hmade hok⟩
  have hanswer : machine.answer (.makeDirectories (p.shelfPath part)) disk =
      disk.prepare (p.path part) := (prepare_path disk part).symm
  unfold Attempt.prepareDirectory
  rw [p.directory?_path part]
  simp only
  rw [Machine.attempt_ask_bind, hanswer, hok]
  rfl

theorem Ready.create (h : p.Ready disk top part) (hon : p.On disk top)
    (hshelf : disk.at? (p.shelfPlace top part) = some .directory) (machine : Machine) :
    ∃ opened, machine.answer (.createFile (p.path part)) disk = (.ok (p.place top part), opened) ∧
      Disk.Sets (p.place top part) (some (.file [] false)) disk opened := by
  obtain ⟨hanswer, hsets⟩ := hon.create machine part
  rw [h.view hshelf] at hanswer hsets
  refine ⟨(machine.answer (.createFile (p.path part)) disk).2, Prod.ext ?_ rfl, ?_⟩
  · rcases h.loose.cases with hat | ⟨data, executable, hat⟩ <;> simp [hanswer, hat] <;> rfl
  · rcases h.loose.cases with hat | ⟨data, executable, hat⟩ <;> rw [hat] at hsets <;> exact hsets

theorem Ready.remove (h : p.Ready disk top part) (hon : p.On disk top)
    (hshelf : disk.at? (p.shelfPlace top part) = some .directory) (machine : Machine) :
    ((machine.answer (.removeFile (p.path part)) disk).1 = .ok () ∨
        (machine.answer (.removeFile (p.path part)) disk).1 = .error .missing) ∧
      Disk.Sets (p.place top part) none disk
        (machine.answer (.removeFile (p.path part)) disk).2 := by
  obtain ⟨hanswer, hsets⟩ := hon.remove machine part
  rw [h.view hshelf] at hanswer hsets
  rcases h.loose.cases with hat | ⟨data, executable, hat⟩
  · rw [hat] at hanswer hsets
    exact ⟨Or.inr hanswer, hsets⟩
  · rw [hat] at hanswer hsets
    exact ⟨Or.inl hanswer, hsets⟩

theorem On.read_vary (h : p.On before top) (hpart : ¬part.IsGenerated)
    (halters : p.Alters top before after) :
    after.read (p.path part) = before.read (p.path part) := by
  have hstream : after.stream (p.place top part) = before.stream (p.place top part) := by
    unfold Disk.stream
    rw [halters.at?_eq (place_not_mem_files hpart) place_not_mem_shelves]
  unfold Disk.read
  rw [h.openFile, (h.vary halters).openFile, view_vary hpart halters]
  rcases h.view_cases part with ⟨fault, hview⟩ | hview | hview | ⟨data, hview⟩ <;>
    simp [hview, Sighting.opened, hstream]

theorem On.isDirectory_vary (h : p.On before top) (hpart : ¬part.IsGenerated)
    (halters : p.Alters top before after) :
    after.isDirectory (p.path part) = before.isDirectory (p.path part) := by
  rw [(h.vary halters).isDirectory, view_vary hpart halters, h.isDirectory]

theorem On.read_of_view (h : p.On disk top) {data : Bytes}
    (hview : p.view disk top part = .ok (some (.file data false))) :
    disk.read (p.path part) = .ok data := by
  unfold Disk.read
  rw [h.openFile, hview]
  simp [Sighting.opened, stream_of_view hview]

theorem On.read_cases (h : p.On disk top) (hdirectory : disk.isDirectory (p.path part) = false) :
    (∃ fault, disk.openFile (p.path part) = .error fault ∧
      disk.read (p.path part) = .error fault) ∨
    ∃ data, p.view disk top part = .ok (some (.file data false)) ∧
      disk.read (p.path part) = .ok data := by
  have hopen := h.openFile part
  rcases h.view_cases part with ⟨fault, hview⟩ | hview | hview | ⟨data, hview⟩
  · rw [hview] at hopen
    exact Or.inl ⟨fault, hopen, by simp [Disk.read, hopen, Sighting.opened]⟩
  · rw [hview] at hopen
    exact Or.inl ⟨.missing, hopen, by simp [Disk.read, hopen, Sighting.opened]⟩
  · rw [h.isDirectory, hview] at hdirectory
    contradiction
  · exact Or.inr ⟨data, hview, h.read_of_view hview⟩

end Trial.Plot

end GoldenRun
