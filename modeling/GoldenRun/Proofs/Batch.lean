import GoldenRun.Proofs.Scope
import GoldenRun.Proofs.Trial.Career
import Mathlib

/-!
# What a batch comes to

Tests have their turns in the order in which they are listed, each in the file system that the ones
before it have left, and none keeps the others from theirs. There is one report for each turn. It
begins with the word of its kind, by which the summary counts it.
-/

namespace GoldenRun

namespace Entrant

def Kind.word : Kind → String
  | passed => "PASS  "
  | failed => "FAIL  "
  | errored => "ERROR "

def Kind.Heads (kind : Kind) (report : String) : Prop :=
  kind.word.toList <+: report.toList

instance (kind : Kind) : DecidablePred kind.Heads :=
  fun _ => inferInstanceAs (Decidable (_ <+: _))

/-- What is reported of a test: that it passed, how its dump differs, or its failure with the causes
of it. -/
inductive Reports (category : String) : Entrant → String → Prop
  | passed {name answer} : answer.passed = true →
      Reports category ⟨name, .ok answer⟩ ("PASS  " ++ (category ++ "/" ++ name) ++ "\n")
  | failed {name answer} : answer.passed = false →
      Reports category ⟨name, .ok answer⟩
        ("FAIL  " ++ (category ++ "/" ++ name) ++ ": " ++ answer.display ++ "\n")
  | errored {name failure} :
      Reports category ⟨name, .error failure⟩
        ("ERROR " ++ (category ++ "/" ++ name) ++ ": " ++ failure.report ++ "\n")

variable {category report : String} {entrant : Entrant} {kind : Kind}

theorem reports_line (category : String) (entrant : Entrant) :
    entrant.Reports category (entrant.line category) := by
  obtain ⟨name, answer | answer⟩ := entrant
  · exact .errored
  · by_cases hpassed : answer.passed = true
    · simp only [line, hpassed, if_true]
      exact .passed hpassed
    · simp only [line, hpassed]
      exact .failed (by simpa using hpassed)

theorem Reports.heads_iff (h : entrant.Reports category report) :
    kind.Heads report ↔ entrant.kind = kind := by
  cases h with
  | passed hpassed => cases kind <;> simp [Kind.Heads, Kind.word, Entrant.kind, hpassed]
  | failed hpassed => cases kind <;> simp [Kind.Heads, Kind.word, Entrant.kind, hpassed]
  | errored => cases kind <;> simp [Kind.Heads, Kind.word, Entrant.kind]

end Entrant

namespace Batch

open Entrant

variable {machine : Machine} {rig : Rig} {category : String} {disk after : Disk}
  {entrants : List Entrant} {reports : List String}

/-- One test has its turn: its name is rejected, or it is run and then given up. -/
inductive Turn (machine : Machine) (rig : Rig) (category : String) (disk : Disk) :
    Entrant → Disk → Prop
  | rejected {name failure} : Trial.new rig category name = .error failure →
      Turn machine rig category disk ⟨name, .error failure⟩ disk
  | run {name trial result later between} : Trial.new rig category name = .ok trial →
      machine.run (trial.run rig) disk = ((result, later), between) →
      Turn machine rig category disk ⟨name, result⟩ (machine.run (later.discard rig) between).2

/-- One test after the other has its turn, in the file system that the one before it has left. -/
inductive Turns (machine : Machine) (rig : Rig) (category : String) :
    Disk → List Entrant → Disk → Prop
  | nil {disk : Disk} : Turns machine rig category disk [] disk
  | cons {disk between after : Disk} {entrant : Entrant} {rest : List Entrant} :
      Turn machine rig category disk entrant between →
      Turns machine rig category between rest after →
      Turns machine rig category disk (entrant :: rest) after

theorem turn_runOne (machine : Machine) (rig : Rig) (category : String) (disk : Disk)
    (name : String) :
    Turn machine rig category disk ⟨name, (machine.run (runOne rig category name) disk).1⟩
      (machine.run (runOne rig category name) disk).2 := by
  unfold runOne
  split
  · next failure hnew => exact .rejected hnew
  · next trial hnew =>
    obtain ⟨⟨⟨result, later⟩, between⟩, hrun⟩ :
      ∃ reply, machine.run (trial.run rig) disk = reply := ⟨_, rfl⟩
    have hgiven : machine.run ((later.discard rig).bind fun _ => .done result) between =
        (result, (machine.run (later.discard rig) between).2) :=
      Machine.run_bind machine _ _ between
    rw [Job.bind_eq, Machine.run_bind, hrun]
    simp only [Job.bind_eq, Job.pure_eq, hgiven]
    exact .run hnew hrun

/-- Every test of a batch has its turn, and the batch comes to its end. -/
theorem turns_runAll (machine : Machine) (rig : Rig) (category : String) (names : List String)
    (disk : Disk) :
    ∃ entrants after,
      machine.run (runAll rig category names) disk = ((entrants, none), after) ∧
      entrants.map Entrant.name = names ∧ Turns machine rig category disk entrants after := by
  induction names generalizing disk with
  | nil => exact ⟨[], disk, rfl, rfl, .nil⟩
  | cons name rest ih =>
    have hturn := turn_runOne machine rig category disk name
    have htestwise := (returns_runOne rig category name).run machine disk
    obtain ⟨⟨result, between⟩, hrun⟩ :
      ∃ reply, machine.run (runOne rig category name) disk = reply := ⟨_, rfl⟩
    rw [hrun] at hturn htestwise
    obtain ⟨entrants, after, hrest, hnames, hturns⟩ := ih between
    refine ⟨⟨name, result⟩ :: entrants, after, ?_, congrArg (name :: ·) hnames,
      .cons hturn hturns⟩
    rw [runAll, Job.bind_eq, Machine.run_bind, hrun, fatal?_eq_none htestwise]
    simp only [Job.bind_eq, Machine.run_bind, hrest]
    rfl

theorem count_eq_countP (h : List.Forall₂ (Entrant.Reports category) entrants reports)
    (kind : Kind) : count kind entrants = reports.countP (kind.Heads ·) := by
  induction h with
  | nil => rfl
  | cons hreport _ ih =>
    unfold count at ih ⊢
    simp only [List.countP_cons, ih, hreport.heads_iff]

theorem reports_lines (category : String) (entrants : List Entrant) :
    List.Forall₂ (Entrant.Reports category) entrants (entrants.map (·.line category)) := by
  induction entrants with
  | nil => exact .nil
  | cons entrant rest ih => exact .cons (entrant.reports_line category) ih

theorem count_add_count_add_count (entrants : List Entrant) :
    count .passed entrants + count .failed entrants + count .errored entrants =
      entrants.length := by
  induction entrants with
  | nil => rfl
  | cons entrant rest ih =>
    unfold count at ih ⊢
    simp only [List.countP_cons, List.length_cons]
    cases entrant.kind <;> simp <;> omega

theorem allPassed_iff (h : List.Forall₂ (Entrant.Reports category) entrants reports) :
    allPassed entrants = true ↔ ∀ report ∈ reports, Kind.passed.Heads report := by
  have hcount := count_add_count_add_count entrants
  have hall : (∀ report ∈ reports, Kind.passed.Heads report) ↔
      reports.countP (Kind.passed.Heads ·) = reports.length := by
    simp [List.countP_eq_length]
  rw [hall, ← count_eq_countP h, ← h.length_eq]
  unfold allPassed
  simp only [decide_eq_true_eq]
  omega

end Batch

namespace Command

/-- The tools that are found do not depend on the options of a run. -/
theorem ofSettings_adjust {disk : Disk} {environment : Environment} {settings : Settings}
    {rig : Rig} (h : Rig.ofSettings disk environment settings = .ok rig)
    (keepArtifacts strict : Bool) :
    Rig.ofSettings disk environment (adjust settings keepArtifacts strict) =
      .ok { rig with settings := adjust settings keepArtifacts strict } := by
  have htoolchain : (adjust settings keepArtifacts strict).toolchain = settings.toolchain := rfl
  unfold Rig.ofSettings at h ⊢
  rw [htoolchain]
  dsimp only at h ⊢
  cases hfound : (Search.ofEnvironment settings.toolchain environment).locateBoth disk
    settings.toolchain with
  | error failure =>
    rw [hfound] at h
    contradiction
  | ok found =>
    rw [hfound] at h
    obtain rfl := Except.ok.inj h
    rfl

theorem adjust_keepArtifacts_iff {settings : Settings} {keepArtifacts strict : Bool} :
    (adjust settings keepArtifacts strict).keepArtifacts = true ↔
      keepArtifacts = true ∨ settings.keepArtifacts = true := by
  simp [adjust, or_comm]

theorem adjust_lengthRule_iff {settings : Settings} {keepArtifacts strict : Bool} :
    (adjust settings keepArtifacts strict).lengthRule = .strict ↔
      strict = true ∨ settings.lengthRule = .strict := by
  cases strict <;> simp [adjust]

theorem testsToRun_eq {disk : Disk} {rig : Rig} {category : String} {names tests : List String}
    (h : (names ≠ [] ∧ tests = names) ∨ (names = [] ∧
      Corpus.discover disk (Trial.assemblyDirectory rig.settings.root category) = .ok tests)) :
    testsToRun disk rig category names = .ok tests := by
  unfold testsToRun
  obtain ⟨hne, rfl⟩ | ⟨rfl, hdiscover⟩ := h
  · rw [if_neg hne]
  · rw [if_pos rfl, hdiscover]

section Sample

open Trial

def sampleSettings : Settings :=
  { sampleRig.settings with toolchain := { assembler := .regex "as", disassembler := .regex "od" } }

/-- The tools of the sample, but the simulator dumps a line that is not in the golden result. -/
def wordyCrew : Crew :=
  { sampleCrew with simulator := fun _ _ _ => ⟨.exited 0, [], [], .holding [0x37, 0x0A, 0x38]⟩ }

def wordyRig (strict : Bool) : Rig :=
  ⟨adjust sampleSettings false strict, "/as", "/od"⟩

theorem ofSettings_sample :
    Rig.ofSettings sampleDisk (sampleMachineOf wordyCrew).environment sampleSettings =
      .ok ⟨sampleSettings, "/as", "/od"⟩ := by
  cbv

/-- The dump of the sample passes, unless the strict rule is switched on. -/
theorem wordy_judged (strict : Bool) : ∃ answer, answer.passed = !strict ∧
    ((sampleMachineOf wordyCrew).run (sampleTrial.run (wordyRig strict)) sampleDisk).1.1 =
      .ok answer := by
  have hfit := sample_fit_of wordyCrew
  have hfit' : (Plot.ofNew sampleTrial_new).Fit (sampleMachineOf wordyCrew) (wordyRig strict)
      wordyCrew sampleDisk [] :=
    { hfit with
      assembles := hfit.assembles
      disassembles := hfit.disassembles
      simulates := hfit.simulates }
  obtain ⟨built, hbuild, halters, himage⟩ := sample_builds_on hfit rfl rfl
  refine ⟨.ofContents (wordyRig strict).settings.lengthRule [0x37] [0x37, 0x0A, 0x38], ?_, ?_⟩
  · cases strict <;> cbv
  · rw [(run_fresh _ (wordyRig strict) rfl sampleDisk).1,
      show (wordyRig strict).toolchain = sampleRig.toolchain from rfl, hbuild]
    exact sample_simulates_on hfit' (fun _ _ => rfl) halters himage

def wordyKind (strict : Bool) : Entrant.Kind :=
  if strict then .failed else .passed

variable {strict : Bool} {disk after : Disk} {entrant : Entrant} {entrants : List Entrant}
  {reports : List String}

theorem turn_rejected (h : Batch.Turn (sampleMachineOf wordyCrew) (wordyRig strict) "c" disk entrant
      after) (hname : entrant.name = "..") : after = disk ∧ entrant.kind = .errored := by
  cases h with
  | rejected hnew => exact ⟨rfl, rfl⟩
  | run hnew hrun =>
    obtain rfl : _ = ".." := hname
    contradiction

theorem turn_judged (h : Batch.Turn (sampleMachineOf wordyCrew) (wordyRig strict) "c" sampleDisk
      entrant after) (hname : entrant.name = "t") : entrant.kind = wordyKind strict := by
  have htrial : Trial.new (wordyRig strict) "c" "t" = .ok sampleTrial := rfl
  obtain ⟨answer, hpassed, hanswer⟩ := wordy_judged strict
  cases h with
  | rejected hnew =>
    obtain rfl : _ = "t" := hname
    contradiction
  | run hnew hrun =>
    obtain rfl : _ = "t" := hname
    obtain rfl := Except.ok.inj (htrial.symm.trans hnew)
    obtain rfl := (congrArg (·.1.1) hrun).symm.trans hanswer
    cases strict <;> simp [Entrant.kind, hpassed, wordyKind]

theorem report_of_turns {ended : Report}
    (hturns : Batch.Turns (sampleMachineOf wordyCrew) (wordyRig strict) "c" sampleDisk entrants
      after)
    (hnames : entrants.map Entrant.name = ["..", "t", ".."])
    (hreports : List.Forall₂ (Entrant.Reports "c") entrants reports)
    (houtput : ended.output = String.join reports ++ ("\n3 tests: "
      ++ Nat.repr (reports.countP (Entrant.Kind.passed.Heads ·)) ++ " passed, "
      ++ Nat.repr (reports.countP (Entrant.Kind.failed.Heads ·)) ++ " failed, "
      ++ Nat.repr (reports.countP (Entrant.Kind.errored.Heads ·)) ++ " errored\n"))
    (hcode : ended.code =
      if ∀ report ∈ reports, Entrant.Kind.passed.Heads report then 0 else 1) :
    ∃ first judged last, Entrant.Kind.errored.Heads first ∧ (wordyKind strict).Heads judged ∧
      Entrant.Kind.errored.Heads last ∧ ended.code = 1 ∧
      ended.output = String.join [first, judged, last] ++ ("\n3 tests: "
        ++ (if strict then "0 passed, 1 failed" else "1 passed, 0 failed") ++ ", 2 errored\n") := by
  obtain ⟨e, rest, rfl, hname, hnames⟩ := List.map_eq_cons_iff.mp hnames
  obtain ⟨e', rest, rfl, hname', hnames⟩ := List.map_eq_cons_iff.mp hnames
  obtain ⟨e'', rest, rfl, hname'', hnames⟩ := List.map_eq_cons_iff.mp hnames
  obtain rfl := List.map_eq_nil_iff.mp hnames
  have hcount := Batch.count_eq_countP hreports
  have hall := Batch.allPassed_iff hreports
  obtain _ | ⟨hturn, _ | ⟨hturn', _ | ⟨hturn'', -⟩⟩⟩ := hturns
  obtain _ | ⟨hreport, _ | ⟨hreport', _ | ⟨hreport'', _ | _⟩⟩⟩ := hreports
  obtain ⟨rfl, hkind⟩ := turn_rejected hturn hname
  have hkind' := turn_judged hturn' hname'
  have hkind'' := (turn_rejected hturn'' hname'').2
  refine ⟨_, _, _, hreport.heads_iff.mpr hkind, hreport'.heads_iff.mpr hkind',
    hreport''.heads_iff.mpr hkind'', ?_, ?_⟩
  · rw [hcode, if_neg]
    rw [← hall]
    simp [Batch.allPassed, Batch.count, hkind, hkind'']
  · rw [houtput, ← hcount .passed, ← hcount .failed, ← hcount .errored]
    cases strict <;> simp [Batch.count, hkind, hkind', hkind'', wordyKind] <;> rfl

end Sample

end Command

end GoldenRun
