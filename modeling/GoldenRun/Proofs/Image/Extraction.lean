import GoldenRun.Proofs.Listing.Cursor
import GoldenRun.Proofs.Trial.ImageFile

/-!
# What extraction makes of a listing

Extraction is told by the file that it reads and by the file that it makes. Whatever the image held
before, in the end it holds the instructions of the listing up to the first line that is no text.
The lines of the listing decide between a failure to read it, a listing without instructions, and
success.
-/

namespace GoldenRun

/-- A file can be made at a path once its directory is made, and it stands at a place then. -/
def Disk.ReceivesAt (disk : Disk) (path : Path) (place : Place) : Prop :=
  ∃ made opened, disk.prepare path = (.ok (), made) ∧ made.createFile path = .ok (place, opened)

namespace Image

open Cursor (Holds Lists)
open Utf8 (IsText)

/-- What is answered when a listing has been gone through, given its instructions up to the first
fault, and that fault. -/
def answer (listing : Path) (instructions : List Instruction) : Option Fault → Except Failure ℕ
  | some fault => .error (.cannotRead .listing listing fault)
  | none =>
    if instructions = [] then .error (.noInstructions listing) else .ok instructions.length

variable {machine : Machine} {disk after made opened : Disk} {listing image path : Path}
  {input target : Place} {content : Bytes} {lines : List Bytes} {instructions : List Instruction}
  {fault : Option Fault} {count : ℕ}

theorem answer_none_of_ne_nil (h : instructions ≠ []) :
    answer listing instructions none = .ok instructions.length :=
  if_neg h

theorem answer_eq_ok (h : answer listing instructions fault = .ok count) :
    fault = none ∧ instructions ≠ [] ∧ count = instructions.length := by
  cases fault with
  | some fault => contradiction
  | none =>
    unfold answer at h
    split_ifs at h with hnone
    exact ⟨rfl, hnone, (Except.ok.inj h).symm⟩

/-- Where the listing can be opened and the image can be made, the image is whatever is read of the
listing once the image has been emptied. -/
theorem attempt_extract (hopen : disk.openFile listing = .ok input)
    (hprepare : disk.prepare image = (.ok (), made))
    (hcreate : made.createFile image = .ok (target, opened))
    (hfound : (opened.stream input).instructions = (instructions, fault)) :
    machine.attempt (extract listing image) disk =
      (answer listing instructions fault, opened.store target (text instructions)) := by
  have hinput : machine.answer (.openFile listing) disk = (.ok input, disk) :=
    congrArg (·, disk) hopen
  have hdirectory : machine.attempt (Attempt.prepareDirectory .image image) disk =
      (.ok (), made) := by
    rcases Trial.attempt_prepareDirectory machine .image image disk with
      ⟨made', hprepare', hattempt⟩ | ⟨directory, fault, made', hdirectory, hmake, -⟩
    · rw [hprepare] at hprepare'
      rw [hattempt, (Prod.mk.inj hprepare').2]
    · rw [Trial.prepare_of_directory? hdirectory, hmake] at hprepare
      simp at hprepare
  have hcreated : machine.answer (.createFile image) made = (.ok target, opened) := by
    simp only [Machine.answer, hcreate]
  have hread : machine.answer (.read input) opened = (opened.stream input, opened) := rfl
  unfold extract
  rw [Machine.attempt_ask_bind, hinput, Machine.attempt_bind_ok (Machine.attempt_granted_ok _ _),
    Machine.attempt_bind_ok hdirectory, Machine.attempt_ask_bind, hcreated,
    Machine.attempt_bind_ok (Machine.attempt_granted_ok _ _), Machine.attempt_ask_bind, hread,
    hfound]
  simp only
  rw [Machine.attempt_ask_bind]
  cases fault with
  | some fault => rfl
  | none =>
    by_cases hnone : instructions = []
    · subst hnone
      rfl
    · rw [answer_none_of_ne_nil hnone]
      simp only [if_neg hnone]
      rfl

theorem exists_resolve_kept (hprepare : disk.prepare image = (.ok (), made))
    (hcontent : disk.content? path = some content) (hother : disk.site? path ≠ some target) :
    ∃ place executable, disk.resolve true path = .ok (.entry place (.file content executable)) ∧
      ∀ last, Disk.Varies {target} ∅ made last →
        last.resolve true path = .ok (.entry place (.file content executable)) := by
  have hmade : Disk.Varies ∅ Set.univ disk made := by
    have hvaries := Trial.varies_prepare disk image
    rwa [hprepare] at hvaries
  obtain ⟨place, executable, hresolve⟩ := Disk.content?_eq_some_iff.mp hcontent
  have hne : place ≠ target := by
    rintro rfl
    exact hother (by rw [Disk.site?, hresolve])
  refine ⟨place, executable, hresolve, fun last hlast => ?_⟩
  exact hlast.resolve (hmade.resolve hresolve (Set.notMem_empty place)) hne

theorem attempt_extract_of_content (machine : Machine)
    (hcontent : disk.content? listing = some content) (htarget : disk.ReceivesAt image target)
    (hother : disk.site? listing ≠ some target)
    (hfound : Stream.instructions ⟨content, none⟩ = (instructions, fault)) :
    ∃ after, machine.attempt (extract listing image) disk =
        (answer listing instructions fault, after) ∧
      after.content? image = some (text instructions) ∧
      ∀ path data, disk.content? path = some data → disk.site? path ≠ some target →
        after.content? path = some data := by
  obtain ⟨made, opened, hprepare, hcreate⟩ := htarget
  obtain ⟨-, hopened, -⟩ := Disk.createFile_ok hcreate
  obtain ⟨input, _, hresolve, hstill⟩ := exists_resolve_kept hprepare hcontent hother
  have hread : (opened.stream input).instructions = (instructions, fault) := by
    rw [(Disk.openFile_of_resolve (hstill opened hopened)).2, hfound]
  refine ⟨_, attempt_extract (Disk.openFile_of_resolve hresolve).1 hprepare hcreate hread,
    Disk.content?_store hcreate _, fun path data hdata hsite => ?_⟩
  obtain ⟨place, executable, -, hlast⟩ := exists_resolve_kept hprepare hdata hsite
  have hwritten := hopened.trans (Set.disjoint_empty _)
    (Disk.varies_store opened target (text instructions))
  exact Disk.content?_eq_some_iff.mpr ⟨place, executable, hlast _ hwritten⟩

theorem exists_of_attempt_extract
    (h : machine.attempt (extract listing image) disk = (.ok count, after)) :
    ∃ input target, disk.openFile listing = .ok input ∧ disk.ReceivesAt image target := by
  unfold extract at h
  rw [Machine.attempt_ask_bind] at h
  simp only [Machine.answer] at h
  cases hopen : disk.openFile listing with
  | error fault =>
    rw [hopen, Machine.attempt_bind_error (Machine.attempt_granted_error _ _)] at h
    simp at h
  | ok input =>
    rw [hopen, Machine.attempt_bind_ok (Machine.attempt_granted_ok _ _)] at h
    rcases Trial.attempt_prepareDirectory machine .image image disk with
      ⟨made, hprepare, hattempt⟩ | ⟨directory, fault, made, -, -, hattempt⟩
    · rw [Machine.attempt_bind_ok hattempt, Machine.attempt_ask_bind] at h
      rcases Trial.Plot.answer_createFile machine made image with
        ⟨fault, hanswer⟩ | ⟨target, opened, hcreate, -⟩
      · rw [hanswer, Machine.attempt_bind_error (Machine.attempt_granted_error _ _)] at h
        simp at h
      · exact ⟨input, target, rfl, made, opened, hprepare, hcreate⟩
    · rw [Machine.attempt_bind_error hattempt] at h
      simp at h

theorem of_attempt_extract (h : machine.attempt (extract listing image) disk = (.ok count, after)) :
    ∃ lines instructions, Lists lines instructions ∧ instructions ≠ [] ∧
      count = instructions.length ∧ after.content? image = some (text instructions) := by
  obtain ⟨input, target, hopen, made, opened, hprepare, hcreate⟩ := exists_of_attempt_extract h
  obtain ⟨instructions, fault, hfound⟩ : ∃ instructions fault,
      (opened.stream input).instructions = (instructions, fault) := ⟨_, _, rfl⟩
  rw [attempt_extract hopen hprepare hcreate hfound] at h
  obtain ⟨hanswer, rfl⟩ := Prod.mk.inj h
  obtain ⟨rfl, hne, hcount⟩ := answer_eq_ok hanswer
  have himage := Disk.content?_store hcreate (text instructions)
  unfold Stream.instructions at hfound
  rcases Cursor.lists_or_garbled (opened.stream input).lines with
    ⟨found, hlists⟩ | ⟨front, bad, back, found, hlines, hlists, hbad⟩
  · rw [hlists.collect] at hfound
    obtain ⟨rfl, -⟩ := Prod.mk.inj hfound
    exact ⟨_, found, hlists, hne, hcount, himage⟩
  · rw [hlines, hlists.collect_garbled hbad] at hfound
    simp at hfound

/-- What extraction makes of a listing, told by its content and its lines: a result, and what the
image holds. -/
structure Classifies (listing : Path) (content : Bytes) (lines : List Bytes)
    (result : Except Failure ℕ) (image : Option Bytes) : Prop where
  garbled_iff : result = .error (.cannotRead .listing listing .notText) ↔ ¬IsText content
  nothing_iff : result = .error (.noInstructions listing) ↔
    IsText content ∧ ∀ line ∈ lines, Holds line none
  /-- The image of a listing that is no text holds the instructions of the lines in front of the
  first one that is none. -/
  garbled : ¬IsText content → ∃ front bad back instructions, lines = front ++ bad :: back ∧
    Lists front instructions ∧ ¬IsText bad ∧ image = some (text instructions)
  nothing : IsText content → (∀ line ∈ lines, Holds line none) → image = some []
  /-- Of any other listing all instructions are counted, and the image holds all of them. -/
  whole : IsText content → (∃ line ∈ lines, ¬Holds line none) →
    ∃ instructions, Lists lines instructions ∧ result = .ok instructions.length ∧
      image = some (text instructions)

theorem classifies_of_collect (hlines : Lines.Of content lines)
    (h : Cursor.collect none lines = (instructions, fault)) :
    Classifies listing content lines (answer listing instructions fault)
      (some (text instructions)) := by
  have htext := Utf8.isText_iff_of_lines hlines
  rcases Cursor.lists_or_garbled lines with
    ⟨found, hlists⟩ | ⟨front, bad, back, found, rfl, hlists, hbad⟩
  · have hyes : IsText content := htext.mpr hlists.isText
    rw [hlists.collect] at h
    obtain ⟨rfl, rfl⟩ := Prod.mk.inj h
    by_cases hnone : found = []
    · subst hnone
      have hnothing := Cursor.lists_nil_iff.mp hlists
      refine ⟨⟨fun h => by simp [answer] at h, fun h => absurd hyes h⟩,
        ⟨fun _ => ⟨hyes, hnothing⟩, fun _ => rfl⟩, fun h => absurd hyes h, fun _ _ => rfl, ?_⟩
      rintro - ⟨line, hmem, hline⟩
      exact absurd (hnothing line hmem) hline
    · have hsome : ¬∀ line ∈ lines, Holds line none := by
        intro hall
        have hcollect := (Cursor.lists_nil_iff.mpr hall).collect none
        rw [hlists.collect] at hcollect
        exact hnone (Prod.mk.inj hcollect).1
      rw [answer_none_of_ne_nil hnone]
      exact ⟨⟨fun h => by contradiction, fun h => absurd hyes h⟩,
        ⟨fun h => by contradiction, fun h => absurd h.2 hsome⟩, fun h => absurd hyes h,
        fun _ hall => absurd hall hsome, fun _ _ => ⟨found, hlists, rfl, rfl⟩⟩
  · have hno : ¬IsText content := fun h => hbad (htext.mp h bad (by simp))
    rw [hlists.collect_garbled hbad] at h
    obtain ⟨rfl, rfl⟩ := Prod.mk.inj h
    exact ⟨⟨fun _ => hno, fun _ => rfl⟩, ⟨fun h => by simp [answer] at h, fun h => absurd h.1 hno⟩,
      fun _ => ⟨front, bad, back, found, rfl, hlists, hbad, rfl⟩,
      fun h => absurd h hno, fun h => absurd h hno⟩

/-- Extraction sorts every listing into one of three kinds, and is exact for each of them, whatever
the image held before. -/
theorem extract_classifies (machine : Machine) (hlines : Lines.Of content lines)
    (hcontent : disk.content? listing = some content) (htarget : disk.ReceivesAt image target)
    (hother : disk.site? listing ≠ some target) :
    Classifies listing content lines (machine.attempt (extract listing image) disk).1
      ((machine.attempt (extract listing image) disk).2.content? image) := by
  obtain ⟨instructions, fault, hcollect⟩ : ∃ instructions fault,
      Cursor.collect none lines = (instructions, fault) := ⟨_, _, rfl⟩
  have hfound : Stream.instructions ⟨content, none⟩ = (instructions, fault) := by
    rw [← hcollect, hlines.eq_all]
    rfl
  obtain ⟨after, hattempt, himage, -⟩ :=
    attempt_extract_of_content machine hcontent htarget hother hfound
  rw [hattempt, himage]
  exact classifies_of_collect hlines hcollect

section Sample

/-- A listing with a heading and one instruction. -/
def sampleListing : List Bytes :=
  [Utf8.encode "t:".toList, Utf8.encode "0: 00000013\r".toList]

/-- The listing in a file, beside an old image. -/
def sampleDisk : Disk where
  home := []
  entries := [(["l"], .file (Lines.written sampleListing) false), (["m"], .file [7] false)]
  nodup := by decide

def sampleMachine : Machine where
  environment _ := none
  interpret _ := .error .denied

theorem sampleListing_of : Lines.Of (Lines.written sampleListing) sampleListing :=
  Lines.of_written (by decide)

theorem sampleDisk_content? : sampleDisk.content? "l" = some (Lines.written sampleListing) := by
  cbv

theorem sampleDisk_receivesAt : sampleDisk.ReceivesAt "m" ["m"] :=
  ⟨sampleDisk, sampleDisk.put ["m"] (.file [] false), by cbv, by cbv⟩

theorem collect_sampleListing :
    Cursor.collect none sampleListing = ([⟨['0'], 0x13⟩], none) := by
  cbv

/-- The instruction of the sample is counted, and nothing is left of the old image. -/
theorem extract_classifies_sample :
    (sampleMachine.attempt (extract "l" "m") sampleDisk).1 = .ok 1 ∧
    (sampleMachine.attempt (extract "l" "m") sampleDisk).2.content? "m" =
      some (Utf8.encode "0:   00000013\n".toList) := by
  have h := extract_classifies sampleMachine sampleListing_of sampleDisk_content?
    sampleDisk_receivesAt (by cbv; simp)
  have hsome : ∃ line ∈ sampleListing, ¬Holds line none := by
    refine ⟨Utf8.encode "0: 00000013\r".toList, by simp [sampleListing], fun hline => ?_⟩
    have hread : Cursor.readLine (Utf8.encode "0: 00000013\r".toList) =
        .ok (some ⟨['0'], 0x13⟩) := by cbv
    rw [Cursor.readLine_eq_ok_iff.mpr hline] at hread
    simp at hread
  obtain ⟨instructions, hlists, hresult, himage⟩ :=
    h.whole ⟨"t:\n0: 00000013\r\n".toList, by cbv⟩ hsome
  have hcollect := hlists.collect none
  rw [collect_sampleListing] at hcollect
  obtain ⟨rfl, -⟩ := Prod.mk.inj hcollect
  exact ⟨hresult, himage⟩

end Sample

end Image

end GoldenRun
