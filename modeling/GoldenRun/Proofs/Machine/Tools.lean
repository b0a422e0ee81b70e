import GoldenRun.Proofs.Trial.Corpus

/-!
# Tools that keep to their files

What a tool does is told by its arguments, by the content of one file, or by its absence, and by
what keeps its output from being written, if anything does. The tool comes to its end, and of the
file system it changes at most one file, which its call names.
-/

namespace GoldenRun

/-- What becomes of the file that a tool is told to write. -/
inductive Deposit
  | kept
  | removed
  | holding (data : Bytes)
  deriving DecidableEq

/-- What stands at the place of the file then. Only a file can be written over or removed. -/
def Deposit.apply : Deposit → Option Entry → Option Entry
  | holding data, none | holding data, some (.file _ _) => some (.file data false)
  | removed, some (.file _ _) => none
  | _, old => old

def Deposit.data? : Deposit → Option Bytes
  | holding data => some data
  | _ => none

/-- How a launch of a tool ends, what it prints, and what it leaves. -/
structure Deed where
  status : ExitStatus
  output : Bytes
  diagnostics : Bytes
  left : Deposit
  deriving DecidableEq

def Deed.finished (deed : Deed) : Finished :=
  ⟨some deed.status, deed.diagnostics⟩

/-- What a tool does, given its arguments, the content of its input, and the fault that it meets if
it writes its output. -/
abbrev Custom := List String → Option Bytes → Option Fault → Deed

/-- What a tool is told to do: to read one file, to write one at most, and to be done in time. -/
structure Call where
  program : Path
  arguments : List String
  limit : Option Duration
  input : Path
  target : Option Path
  deriving DecidableEq

def Call.command (call : Call) (output : Option Place) : Launch :=
  ⟨call.program, call.arguments, output, call.limit⟩

/-- The fault that keeps an output from being written. -/
def Disk.obstacle? (disk : Disk) : Option Path → Option Fault
  | none => none
  | some path =>
    match disk.createFile path with
    | .ok _ => none
    | .error fault => some fault

/-- The fault of a call whose words cannot be passed on. -/
def Call.fault? (call : Call) : Option Fault :=
  Machine.wordFault? (call.command none)

/-- An outcome is that of a deed, which has changed nothing but the file to be written. -/
structure Outcome.Carries (outcome : Outcome) (deed : Deed) (before : Disk)
    (target : Option Path) : Prop where
  status : outcome.status = some deed.status
  output : outcome.output = deed.output
  diagnostics : outcome.diagnostics = deed.diagnostics
  home : outcome.disk.home = before.home
  elsewhere : ∀ place, target.bind before.site? ≠ some place →
    outcome.disk.at? place = before.at? place
  written : ∀ place, target.bind before.site? = some place →
    (outcome.disk.at? place).map Entry.plain =
      (deed.left.apply (before.at? place)).map Entry.plain

/-- A program goes by a custom when it is called. -/
def Program.GoesBy (program : Program) (custom : Custom) (call : Call) : Prop :=
  ∀ disk, (program call.arguments call.limit disk).Carries
    (custom call.arguments (disk.content? call.input) (disk.obstacle? call.target)) disk call.target

/-- The search for the program of a call comes to the same end, whatever becomes of some files and
directories, and a program that is found goes by a custom. -/
structure Machine.Serves (machine : Machine) (files directories : Set Place) (disk : Disk)
    (custom : Custom) (call : Call) (found : Except Fault Program) : Prop where
  finds : ∀ after, Disk.Varies files directories disk after →
    machine.findProgram after call.program = found
  obeys : ∀ program, found = .ok program → program.GoesBy custom call

/-- The tool of a call can be started, and goes by a custom. -/
def Machine.Employs (machine : Machine) (files directories : Set Place) (disk : Disk)
    (custom : Custom) (call : Call) : Prop :=
  call.fault? = none ∧ ∃ program, machine.Serves files directories disk custom call (.ok program)

variable {machine : Machine} {files directories : Set Place} {disk : Disk} {place : Place}

/-- A path with a slash names its program as long as the file at its end is left alone. -/
theorem Machine.findProgram_vary {after : Disk} {tool : Path} {data : Bytes}
    (hslash : '/' ∈ tool.toList) (hfind : disk.find? tool = some (place, .file data true))
    (hfile : place ∉ files) (hdirectory : place ∉ directories)
    (hvaries : Disk.Varies files directories disk after) :
    machine.findProgram after tool = machine.interpret data := by
  have hne : tool ≠ "" := by
    rintro rfl
    simp at hslash
  have hresolve : disk.resolve true tool = .ok (.entry place (.file data true)) := by
    unfold Disk.find? at hfind
    split at hfind
    · next found heq =>
      obtain ⟨rfl, rfl⟩ : _ = place ∧ _ = Entry.file data true := by simpa using hfind
      exact heq
    · contradiction
  have hafter : after.resolve true tool = .ok (.entry place (.file data true)) := by
    unfold Disk.resolve Disk.resolveAlong at hresolve ⊢
    split
    · next fault hfault => simp [hfault] at hresolve
    · next hfault =>
      have hstart : after.start tool = disk.start tool := by simp [Disk.start, hvaries.home]
      rw [hstart]
      exact Disk.walk_keep hvaries.keepsWays (by simpa [hfault] using hresolve)
        (hvaries.at?_eq hfile hdirectory)
  simp [Machine.findProgram, hne, hslash, Machine.programAt, hafter]

namespace Deposit

theorem map_plain_apply (left : Deposit) (old : Option Entry) :
    (left.apply old).map Entry.plain = left.apply (old.map Entry.plain) := by
  rcases left with _ | _ | _ <;> rcases old with _ | (_ | _ | _) <;> rfl

theorem apply_holding {old : Option Entry} (h : Loose old) (data : Bytes) :
    (holding data).apply old = some (.file data false) := by
  rcases h.cases with rfl | ⟨old, executable, rfl⟩ <;> rfl

theorem apply_none (left : Deposit) :
    left.apply none = left.data?.map fun data => .file data false := by
  cases left <;> rfl

theorem apply_cases (left : Deposit) (old : Option Entry) :
    left.apply old = old ∨ Loose old ∧ Loose (left.apply old) := by
  rcases left with _ | _ | _ <;> rcases old with _ | (_ | _ | _) <;> simp [apply, Loose]

end Deposit

/-- What stands at the place of a file after a deed that was to write it. -/
def Sighting.afterDeed (left : Deposit) : Sighting → Option Entry → Option Entry
  | .ok _, old => left.apply old
  | .error _, old => old

namespace Outcome.Carries

variable {outcome : Outcome} {deed : Deed} {target : Option Path}

theorem unchanged (h : outcome.Carries deed disk target) (hnone : target.bind disk.site? = none) :
    Disk.Varies files directories disk outcome.disk :=
  ⟨h.home, fun place => Or.inl (h.elsewhere place (by simp [hnone]))⟩

theorem sets (h : outcome.Carries deed disk target)
    (hsome : target.bind disk.site? = some place) :
    Disk.Sets place (deed.left.apply ((disk.at? place).map Entry.plain)) disk outcome.disk := by
  have hwritten := h.written place hsome
  refine ⟨⟨h.home, ?_⟩, by rw [hwritten, Deposit.map_plain_apply]⟩
  intro other
  by_cases hother : other = place
  · subst hother
    rcases deed.left.apply_cases (disk.at? other) with hkept | ⟨hold, hnew⟩
    · rw [hkept] at hwritten
      rcases plain_cases hwritten with hsame | ⟨data, x, y, hafter, hbefore⟩
      · exact Or.inl hsame
      · exact Or.inr (Or.inl ⟨rfl, by rw [hbefore]; trivial, by rw [hafter]; trivial⟩)
    · rw [← loose_plain, ← hwritten, loose_plain] at hnew
      exact Or.inr (Or.inl ⟨rfl, hold, hnew⟩)
  · exact Or.inl (h.elsewhere other (by simp [hsome, Ne.symm hother]))

theorem varies (h : outcome.Carries deed disk target) :
    Disk.Varies {place | target.bind disk.site? = some place} ∅ disk outcome.disk := by
  cases hsite : target.bind disk.site? with
  | none => exact h.unchanged hsite
  | some place => exact (h.sets hsite).within rfl

end Outcome.Carries

def Deposit.leave (left : Deposit) (disk : Disk) (place : Place) : Disk :=
  if left.apply (disk.at? place) = disk.at? place then disk
  else
    match left.apply (disk.at? place) with
    | some entry => disk.put place entry
    | none => disk.erase place

theorem Deposit.at?_leave (left : Deposit) (disk : Disk) (place other : Place) :
    (left.leave disk place).at? other =
      if other = place then left.apply (disk.at? place) else disk.at? other := by
  unfold leave
  by_cases hkept : left.apply (disk.at? place) = disk.at? place
  · rw [if_pos hkept]
    split_ifs with hother
    · rw [hother, hkept]
    · rfl
  · have hne : place ≠ [] := by
      rintro rfl
      rw [disk.at?_nil] at hkept
      exact hkept (by cases left <;> rfl)
    rw [if_neg hkept]
    cases left.apply (disk.at? place) with
    | none => exact disk.at?_erase hne other
    | some entry => exact disk.at?_put hne entry other

def Custom.program (custom : Custom) (call : Call) : Program := fun arguments _ disk =>
  let deed := custom arguments (disk.content? call.input) (disk.obstacle? call.target)
  { disk := (call.target.bind disk.site?).elim disk (deed.left.leave disk)
    output := deed.output
    diagnostics := deed.diagnostics
    status := some deed.status }

/-- Every custom is that of a program. -/
theorem Custom.program_goesBy (custom : Custom) (call : Call) :
    (custom.program call).GoesBy custom call := by
  intro disk
  obtain ⟨deed, hdeed⟩ : ∃ deed, deed = custom call.arguments (disk.content? call.input)
    (disk.obstacle? call.target) := ⟨_, rfl⟩
  unfold Custom.program
  rw [← hdeed]
  cases hsite : call.target.bind disk.site? with
  | none => exact ⟨rfl, rfl, rfl, rfl, fun _ _ => rfl, fun place h => by simp [hsite] at h⟩
  | some place =>
    have hhome : (deed.left.leave disk place).home = disk.home := by
      unfold Deposit.leave
      split_ifs
      · rfl
      · split <;> rfl
    refine ⟨rfl, rfl, rfl, hhome, fun other hother => ?_, fun other hother => ?_⟩
    · have hne : other ≠ place := by
        rintro rfl
        exact hother hsite
      exact (deed.left.at?_leave disk place other).trans (if_neg hne)
    · obtain rfl : place = other := Option.some.inj (hsite.symm.trans hother)
      exact congrArg _ ((deed.left.at?_leave disk place place).trans (if_pos rfl))

theorem Disk.obstacle?_some (disk : Disk) (path : Path) :
    disk.obstacle? (some path) =
      match (disk.createFile path).map Prod.fst with
      | .ok _ => none
      | .error fault => some fault := by
  simp only [obstacle?]
  cases disk.createFile path <;> rfl

namespace Trial.Plot.On

variable {p : Plot} {top : Place} {part : Part} {other : Disk}

theorem obstacle?_congr (h : p.On disk top) (h' : p.On other top)
    (hview : p.view disk top part = p.view other top part) :
    disk.obstacle? (some (p.path part)) = other.obstacle? (some (p.path part)) := by
  rw [Disk.obstacle?_some, Disk.obstacle?_some, h.createFile, h'.createFile, hview]

theorem obstacle?_eq_none (h : p.On disk top) {seen : Option Entry}
    (hview : p.view disk top part = .ok seen) (hloose : Loose seen) :
    disk.obstacle? (some (p.path part)) = none := by
  rw [Disk.obstacle?_some, h.createFile, hview]
  rcases hloose.cases with rfl | ⟨data, executable, rfl⟩ <;> rfl

end Trial.Plot.On

/-- The deed that follows from a call, or the fault that keeps the program from starting. -/
def Custom.deed (custom : Custom) (call : Call) (found : Except Fault Program)
    (input : Option Bytes) (obstacle : Option Fault) : Except Fault Deed :=
  match call.fault? with
  | some fault => .error fault
  | none => found.map fun _ => custom call.arguments input obstacle

/-- What becomes of a file that a call is to write. -/
def Sighting.afterCall (done : Except Fault Deed) (view : Sighting) (old : Option Entry) :
    Option Entry :=
  match done with
  | .ok deed => view.afterDeed deed.left old
  | .error _ => old

/-- What becomes of an open file that receives what a call prints. -/
def Entry.afterPrint (done : Except Fault Deed) (old : Option Entry) : Option Entry :=
  match done with
  | .ok deed => filled deed.output old
  | .error _ => old

namespace Machine

variable {before after : Disk} {custom : Custom} {call : Call} {found : Except Fault Program}
  {output : Option Place}

namespace Serves

theorem vary (h : machine.Serves files directories before custom call found)
    (hdisjoint : Disjoint files directories)
    (hvaries : Disk.Varies files directories before after) :
    machine.Serves files directories after custom call found :=
  ⟨fun last hlast => h.finds last (hvaries.trans hdisjoint hlast), h.obeys⟩

theorem of_find? {program : Program} {data : Bytes} (hslash : '/' ∈ call.program.toList)
    (hfind : disk.find? call.program = some (place, .file data true))
    (hfile : place ∉ files) (hdirectory : place ∉ directories)
    (hmeans : machine.interpret data = .ok program) (hgoes : program.GoesBy custom call) :
    machine.Serves files directories disk custom call (.ok program) := by
  constructor
  · intro after hvaries
    rw [findProgram_vary hslash hfind hfile hdirectory hvaries, hmeans]
  · intro other hother
    obtain rfl := Except.ok.inj hother
    exact hgoes

theorem launch_cases (h : machine.Serves files directories disk custom call found) :
    (∃ fault, custom.deed call found (disk.content? call.input) (disk.obstacle? call.target) =
        .error fault ∧
      machine.launch (call.command output) disk = (.error fault, disk)) ∨
    ∃ deed outcome, custom.deed call found (disk.content? call.input)
        (disk.obstacle? call.target) = .ok deed ∧
      Outcome.Carries outcome deed disk call.target ∧
      machine.launch (call.command output) disk = (.ok deed.finished,
        output.elim outcome.disk fun place => outcome.disk.store place deed.output) := by
  have hfault : wordFault? (call.command output) = call.fault? := rfl
  have hfind := h.finds disk (.refl disk)
  unfold launch Custom.deed
  rw [hfault]
  cases call.fault? with
  | some fault => exact Or.inl ⟨fault, rfl, rfl⟩
  | none =>
    simp only [Call.command, hfind]
    cases found with
    | error fault => exact Or.inl ⟨fault, rfl, rfl⟩
    | ok program =>
      have hcarries := h.obeys program rfl disk
      refine Or.inr ⟨_, _, rfl, hcarries, ?_⟩
      simp only [hcarries.status, hcarries.output, hcarries.diagnostics]
      cases output <;> rfl

theorem answer (h : machine.Serves files directories disk custom call found) :
    (machine.launch (call.command output) disk).1 =
      (custom.deed call found (disk.content? call.input) (disk.obstacle? call.target)).map
        Deed.finished := by
  rcases h.launch_cases with ⟨fault, hdeed, hlaunch⟩ | ⟨deed, outcome, hdeed, -, hlaunch⟩
  · rw [hlaunch, hdeed]
    rfl
  · rw [hlaunch, hdeed]
    rfl

theorem sets {p : Trial.Plot} {top : Place} {part : Trial.Part}
    (h : machine.Serves files directories disk custom call found) (hon : p.On disk top)
    (htarget : call.target = some (p.path part)) :
    Disk.Sets (p.place top part)
      ((p.view disk top part).afterCall
        (custom.deed call found (disk.content? call.input) (disk.obstacle? call.target))
        ((disk.at? (p.place top part)).map Entry.plain))
      disk (machine.launch (call.command none) disk).2 := by
  rcases h.launch_cases with
    ⟨fault, hdeed, hlaunch⟩ | ⟨deed, outcome, hdeed, hcarries, hlaunch⟩
  · rw [hlaunch, hdeed]
    exact Disk.sets_refl disk _
  · rw [hlaunch, hdeed]
    have hsite := hon.site? part
    rw [htarget] at hcarries
    cases hview : p.view disk top part with
    | error fault =>
      rw [hview] at hsite
      refine ⟨hcarries.unchanged hsite, ?_⟩
      exact congrArg _ (hcarries.elsewhere _ (by simp [hsite, Except.toOption]))
    | ok seen =>
      rw [hview] at hsite
      exact hcarries.sets hsite

theorem prints (h : machine.Serves files directories disk custom call found)
    (htarget : call.target = none) (hne : place ≠ []) :
    Disk.Sets place
      (Entry.afterPrint
        (custom.deed call found (disk.content? call.input) (disk.obstacle? call.target))
        ((disk.at? place).map Entry.plain))
      disk (machine.launch (call.command (some place)) disk).2 := by
  rcases h.launch_cases with
    ⟨fault, hdeed, hlaunch⟩ | ⟨deed, outcome, hdeed, hcarries, hlaunch⟩
  · rw [hlaunch, hdeed]
    exact Disk.sets_refl disk _
  · rw [hlaunch, hdeed]
    rw [htarget] at hcarries
    have hstored : Disk.Sets place _ outcome.disk _ := Disk.sets_store hne deed.output
    rw [hcarries.elsewhere place (by simp)] at hstored
    exact ⟨(hcarries.unchanged rfl).trans (Set.disjoint_empty _) hstored.varies, hstored.here⟩

end Serves

namespace Employs

theorem vary (h : machine.Employs files directories before custom call)
    (hdisjoint : Disjoint files directories)
    (hvaries : Disk.Varies files directories before after) :
    machine.Employs files directories after custom call := by
  obtain ⟨hfault, program, hserves⟩ := h
  exact ⟨hfault, program, hserves.vary hdisjoint hvaries⟩

theorem deed_eq (h : call.fault? = none) (program : Program) (input : Option Bytes)
    (obstacle : Option Fault) :
    custom.deed call (.ok program) input obstacle =
      .ok (custom call.arguments input obstacle) := by
  simp [Custom.deed, h, Except.map]

theorem answer (h : machine.Employs files directories disk custom call) (output : Option Place) :
    (machine.launch (call.command output) disk).1 =
      .ok (custom call.arguments (disk.content? call.input)
        (disk.obstacle? call.target)).finished := by
  obtain ⟨hfault, program, hserves⟩ := h
  rw [hserves.answer, deed_eq hfault]
  rfl

theorem sets {p : Trial.Plot} {top : Place} {part : Trial.Part}
    (h : machine.Employs files directories disk custom call) (hon : p.On disk top)
    (htarget : call.target = some (p.path part)) :
    Disk.Sets (p.place top part)
      ((p.view disk top part).afterDeed
        (custom call.arguments (disk.content? call.input) (disk.obstacle? call.target)).left
        ((disk.at? (p.place top part)).map Entry.plain))
      disk (machine.launch (call.command none) disk).2 := by
  obtain ⟨hfault, program, hserves⟩ := h
  have hsets : Disk.Sets _ _ disk (machine.launch (call.command none) disk).2 :=
    hserves.sets hon htarget
  rw [deed_eq hfault] at hsets
  exact hsets

theorem prints (h : machine.Employs files directories disk custom call)
    (htarget : call.target = none) (hne : place ≠ []) :
    Disk.Sets place
      (Entry.filled
        (custom call.arguments (disk.content? call.input) (disk.obstacle? call.target)).output
        ((disk.at? place).map Entry.plain))
      disk (machine.launch (call.command (some place)) disk).2 := by
  obtain ⟨hfault, program, hserves⟩ := h
  have hprints : Disk.Sets _ _ disk (machine.launch (call.command (some place)) disk).2 :=
    hserves.prints htarget hne
  rw [deed_eq hfault] at hprints
  exact hprints

end Employs

end Machine

end GoldenRun
