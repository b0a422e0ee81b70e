import GoldenRun.Proofs.Disk.Making
import GoldenRun.Proofs.Text.Utf8

/-!
# What becomes of a content

The content that a path leads to stays what it is as long as nothing is written at its place. Making
directories writes nothing at all, removing a file takes no more than that file, and a file that is
opened for writing holds what is written to it next. A file that is a text is read as that text.
-/

namespace GoldenRun.Disk

variable {disk before after made : Disk} {path : Path} {place : Place} {data : Bytes}
  {files directories : Set Place}

theorem varies_makeDirectories (disk : Disk) (path : Path) :
    Varies ∅ Set.univ disk (disk.makeDirectories path).2 :=
  (makes_makeLineage disk _).mono le_rfl (Set.subset_univ _)

theorem content?_eq_some_iff : disk.content? path = some data ↔
    ∃ place executable, disk.resolve true path = .ok (.entry place (.file data executable)) := by
  unfold content? find?
  constructor
  · intro h
    rcases hresolve : disk.resolve true path with
      fault | (⟨place, _ | _ | _⟩ | ⟨directory, name⟩) <;> simp_all
  · rintro ⟨place, executable, hresolve⟩
    rw [hresolve]

theorem content?_eq_some_iff_plain? :
    disk.content? path = some data ↔ disk.plain? path = some (.file data false) := by
  unfold content? plain?
  rcases disk.find? path with _ | ⟨place, _ | _ | _⟩ <;> simp [Entry.plain]

theorem content?_congr (h : after.plain? path = before.plain? path) :
    after.content? path = before.content? path := by
  refine Option.ext fun data => ?_
  rw [content?_eq_some_iff_plain?, content?_eq_some_iff_plain?, h]

/-- A path that leads to a file goes on to lead to what is written there. -/
theorem resolve_rewritten {old : Bytes} {executable executable' : Bool}
    (hhome : after.home = before.home) (hkeep : before.KeepsWays after)
    (h : before.resolve true path = .ok (.entry place (.file old executable)))
    (hat : after.at? place = some (.file data executable')) :
    after.resolve true path = .ok (.entry place (.file data executable')) := by
  obtain ⟨hfault, hwalk⟩ := resolveAlong_eq_ok h
  have hstart : after.start path = before.start path := by simp [start, hhome]
  unfold Disk.resolve Disk.resolveAlong
  rw [hfault, hstart]
  exact walk_rewritten hkeep hwalk hat

theorem Varies.resolve {executable : Bool} (h : Varies files directories before after)
    (hresolve : before.resolve true path = .ok (.entry place (.file data executable)))
    (hplace : place ∉ files) :
    after.resolve true path = .ok (.entry place (.file data executable)) := by
  have hat := at?_of_walk (resolveAlong_eq_ok hresolve).2 (by simp)
  refine resolve_rewritten h.home h.keepsWays hresolve ?_
  rcases h.entries place with hsame | ⟨hmem, -⟩ | ⟨-, hnone, -⟩
  · exact hsame.trans hat
  · exact absurd hmem hplace
  · rw [hat] at hnone
    contradiction

theorem Varies.content? (h : Varies files directories before after)
    (hcontent : before.content? path = some data)
    (hsite : ∀ place ∈ files, before.site? path ≠ some place) :
    after.content? path = some data := by
  obtain ⟨place, executable, hresolve⟩ := content?_eq_some_iff.mp hcontent
  have hplace : before.site? path = some place := by rw [site?, hresolve]
  exact content?_eq_some_iff.mpr
    ⟨place, executable, h.resolve hresolve fun hmem => hsite place hmem hplace⟩

theorem openFile_of_resolve {executable : Bool}
    (h : disk.resolve true path = .ok (.entry place (.file data executable))) :
    disk.openFile path = .ok place ∧ disk.stream place = ⟨data, none⟩ := by
  have hat := at?_of_walk (resolveAlong_eq_ok h).2 (by simp)
  exact ⟨by rw [openFile, h], by rw [stream, hat]⟩

/-- A file that is opened for writing is there, without content, and nothing else has changed. What
is written at its place is what its path leads to then. -/
theorem createFile_ok (h : disk.createFile path = .ok (place, made)) :
    disk.site? path = some place ∧ Varies {place} ∅ disk made ∧
      (∃ executable, made.at? place = some (.file [] executable)) ∧
      ∀ data executable after, Varies {place} ∅ disk after →
        after.at? place = some (.file data executable) →
        after.resolve true path = .ok (.entry place (.file data executable)) := by
  unfold createFile at h
  split_ifs at h with hslash
  · split at h <;> contradiction
  · rcases hresolve : disk.resolve true path with
      fault | (⟨found, ⟨old, executable⟩ | _ | _⟩ | ⟨directory, name⟩) <;> rw [hresolve] at h
    · contradiction
    · obtain ⟨rfl, rfl⟩ := Prod.mk.inj (Except.ok.inj h)
      have hat := at?_of_walk (resolveAlong_eq_ok hresolve).2 (by simp)
      have hne : found ≠ [] := by
        rintro rfl
        simp at hat
      refine ⟨by rw [site?, hresolve], (sets_put hne (by rw [hat]; trivial) [] executable).varies,
        ⟨executable, by rw [disk.at?_put hne, if_pos rfl]⟩, fun _ mode after hvaries hwritten => ?_⟩
      exact resolve_rewritten hvaries.home hvaries.keepsWays hresolve hwritten
    · contradiction
    · contradiction
    · obtain ⟨rfl, rfl⟩ := Prod.mk.inj (Except.ok.inj h)
      have hnone := at?_of_walk_vacant (resolveAlong_eq_ok hresolve).2
      have hne : directory ++ [name] ≠ [] := by simp
      refine ⟨by rw [site?, hresolve], (sets_put hne (by rw [hnone]; trivial) [] false).varies,
        ⟨false, by rw [disk.at?_put hne, if_pos rfl]⟩, fun data mode after hvaries hwritten => ?_⟩
      exact resolve_filled hvaries.home hvaries.keepsWays hresolve hwritten

theorem varies_store (disk : Disk) (place : Place) (data : Bytes) :
    Varies {place} ∅ disk (disk.store place data) := by
  unfold store
  split
  · next old executable hat =>
    have hne : place ≠ [] := by
      rintro rfl
      simp at hat
    exact (sets_put hne (by rw [hat]; trivial) data executable).varies
  · exact .refl disk

theorem at?_store {old : Bytes} {executable : Bool}
    (h : disk.at? place = some (.file old executable)) (data : Bytes) :
    (disk.store place data).at? place = some (.file data executable) := by
  have hne : place ≠ [] := by
    rintro rfl
    simp at h
  rw [store, h]
  exact (disk.at?_put hne _ _).trans (if_pos rfl)

theorem content?_store (h : disk.createFile path = .ok (place, made)) (data : Bytes) :
    (made.store place data).content? path = some data := by
  obtain ⟨-, hvaries, ⟨executable, hat⟩, hresolve⟩ := createFile_ok h
  exact content?_eq_some_iff.mpr ⟨place, executable, hresolve _ _ _
    (hvaries.trans (Set.disjoint_empty _) (varies_store made place data)) (at?_store hat data)⟩

/-- A file that has been written is where its path leads, and nothing else has changed. -/
theorem exists_resolve_of_write (h : disk.write path data = (.ok (), after)) :
    ∃ place executable, Varies {place} ∅ disk after ∧
      after.resolve true path = .ok (.entry place (.file data executable)) := by
  unfold write at h
  cases hcreate : disk.createFile path with
  | error fault => simp [hcreate] at h
  | ok result =>
    obtain ⟨place, made⟩ := result
    obtain ⟨-, hmade, ⟨executable, hat⟩, hresolve⟩ := createFile_ok hcreate
    obtain rfl : made.store place data = after := by simpa [hcreate] using h
    have hvaries := hmade.trans (Set.disjoint_empty _) (varies_store made place data)
    exact ⟨place, executable, hvaries, hresolve _ _ _ hvaries (at?_store hat data)⟩

theorem read_of_resolve {executable : Bool}
    (h : disk.resolve true path = .ok (.entry place (.file data executable))) :
    disk.read path = .ok data := by
  obtain ⟨hopen, hstream⟩ := openFile_of_resolve h
  simp only [read, hopen, hstream]

theorem readText_eq_ok_iff {text : String} :
    disk.readText path = .ok text ↔ disk.read path = .ok (Utf8.encode text.toList) := by
  unfold readText
  cases disk.read path with
  | error fault => simp
  | ok content =>
    simp only [Except.ok.injEq]
    cases hdecode : Utf8.decode? content with
    | none =>
      have hnone : ∀ text, Utf8.encode text ≠ content := by
        intro text he
        rw [Utf8.decode?_eq_some_iff.mpr he] at hdecode
        contradiction
      simp [(hnone text.toList).symm]
    | some chars =>
      obtain rfl := Utf8.decode?_eq_some_iff.mp hdecode
      simp only [Except.ok.injEq]
      constructor
      · rintro rfl
        rw [String.toList_ofList]
      · intro he
        rw [he, Utf8.decode?_eq_some_iff.mpr rfl] at hdecode
        rw [← Option.some.inj hdecode, String.ofList_toList]

theorem varies_removeFile (machine : Machine) (disk : Disk) (hslash : path.endsInSlash = false)
    (hlink : ∀ place target, disk.named? path = some place →
      disk.at? place ≠ some (.link target)) :
    Varies {place | disk.named? path = some place} ∅ disk
      (machine.answer (.removeFile path) disk).2 := by
  rcases removeFile_cases disk hslash with ⟨place, hnamed, hremove⟩ | ⟨-, fault, hremove⟩ <;>
    simp only [Machine.answer, hremove]
  · obtain ⟨found, hat, hfound⟩ := at?_of_named? hnamed
    have hloose : Loose (disk.at? place) := by
      cases found with
      | file data executable => rw [hat]; trivial
      | directory => exact absurd rfl hfound
      | link target => exact absurd hat (hlink place target hnamed)
    exact (sets_erase (ne_nil_of_named? hnamed) hloose).within hnamed
  · exact .refl disk

end GoldenRun.Disk
