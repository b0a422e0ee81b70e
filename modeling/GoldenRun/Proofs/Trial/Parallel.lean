import GoldenRun.Proofs.Job.Interleaving
import GoldenRun.Proofs.Trial.Abreast
import GoldenRun.Proofs.Trial.Run

/-!
# Tests side by side

Tests of one corpus that are at work at the same time come to the results that they come to alone,
and leave the same files. They share the directories that they make, and nothing else.
-/

namespace GoldenRun.Trial

variable {ι : Type} {machine : Machine} {rig : ι → Rig} {crew : ι → Crew} {plots : ι → Plot}
  {start : Disk} {top : Place}

namespace Plot

/-- Tests of different names keep one another in step with what they would do alone. -/
theorem separates_of_arrives
    (hapart : ∀ i j, i ≠ j →
      ((plots i).category, (plots i).name) ≠ ((plots j).category, (plots j).name))
    (harrives : ∀ i, start.Arrives (plots i).root top) (hlinkless : start.Linkless top)
    (hserved : ∀ i, (plots i).Served machine (rig i) (crew i) (Set.range plots) start top) :
    machine.Separates
      (fun i => (plots i).contract (rig i) top (start.isFile ((plots i).path .source) = true))
      (fun i => (plots i).Abreast (Set.range plots) top start) := by
  constructor
  · intro i known shared own r hallows habreast
    have hagrees := habreast.agrees (Set.mem_range_self i) (harrives i) hlinkless (hserved i)
      hallows
    exact ⟨hagrees.answer, hagrees.promise, hagrees.abreast⟩
  · intro i j known known' shared own own' r hne hallows habreast habreast'
    have hagrees := habreast.agrees (Set.mem_range_self i) (harrives i) hlinkless (hserved i)
      hallows
    exact habreast'.other (Set.mem_range_self i) (hapart i j hne) hagrees.alters

/-- Where no source is a regular file, nothing happens at all. -/
theorem separates_of_not_isFile (machine : Machine) (rig : ι → Rig) (top : Place)
    (hsource : ∀ i, start.isFile ((plots i).path .source) ≠ true) :
    machine.Separates
      (fun i => (plots i).contract (rig i) top (start.isFile ((plots i).path .source) = true))
      (fun _ _ shared own => shared = start ∧ own = start) := by
  have hstill : ∀ {i known r}, (plots i).Allows (rig i) top
      (start.isFile ((plots i).path .source) = true) known r →
      (machine.answer r start).2 = start ∧
        (plots i).Promises top (start.isFile ((plots i).path .source) = true) r
          (machine.answer r start).1 := by
    intro i known r hallows
    cases r with
    | isFile path =>
      obtain rfl : path = (plots i).path .source := hallows
      exact ⟨rfl, fun htrue => htrue⟩
    | _ => exact absurd hallows.1 (hsource i)
  constructor
  · rintro i known shared own r hallows ⟨rfl, rfl⟩
    obtain ⟨hdisk, hpromise⟩ := hstill hallows
    exact ⟨rfl, hpromise, hdisk, hdisk⟩
  · rintro i j known known' shared own own' r hne hallows ⟨rfl, rfl⟩ ⟨-, rfl⟩
    exact ⟨(hstill hallows).1, rfl⟩

end Plot

def Files.all (files : Files) : List Path :=
  files.source :: files.expected :: files.generated

theorem Plot.mem_files_all {p : Plot} {path : Path} (h : path ∈ p.files.all) :
    ∃ part, path = p.path part := by
  simp only [Files.all, Files.generated, List.mem_cons, List.not_mem_nil, or_false] at h
  rcases h with rfl | rfl | rfl | rfl | rfl | rfl
  · exact ⟨.source, rfl⟩
  · exact ⟨.expected, rfl⟩
  · exact ⟨.object, rfl⟩
  · exact ⟨.listing, rfl⟩
  · exact ⟨.image, rfl⟩
  · exact ⟨.result, rfl⟩

/-- Tests that are accepted and do not share a name are undisturbed by one another in a corpus
without links, with tools that keep to their files, whatever is done with them and in whatever
order. -/
theorem live_undisturbed [DecidableEq ι] (machine : Machine) (crew : ι → Crew) {rig : ι → Rig}
    {root : Path} {category name : ι → String} {trial : ι → Trial} {disk : Disk}
    (hroot : ∀ i, (rig i).settings.root = root)
    (hnew : ∀ i, Trial.new (rig i) (category i) (name i) = .ok (trial i))
    (hapart : ∀ i j, i ≠ j → (category i, name i) ≠ (category j, name j))
    (hrooted : disk.Rooted) (hlinkless : ∀ top, disk.Arrives root top → disk.Linkless top)
    (hserved : ∀ top, disk.Arrives root top → ∀ i, (Plot.ofNew (hnew i)).Served machine (rig i)
      (crew i) (Set.range fun j => Plot.ofNew (hnew j)) disk top)
    (actions : ι → List Action) (i : ι) :
    machine.Undisturbed (fun j => (trial j).live (rig j) (actions j)) disk i
      (trial i).files.all := by
  have hstands : ∀ j sourced, (Plot.ofNew (hnew j)).Stands sourced ∅ (trial j) := by
    intro j sourced
    obtain ⟨hfiles, himage, hverdict⟩ := Plot.of_new (hnew j)
    refine ⟨hfiles, fun hne => absurd himage hne, ?_⟩
    intro hpass
    simp [passed, hverdict] at hpass
  have hpaths : ∀ path ∈ (trial i).files.all, ∃ part, path = (Plot.ofNew (hnew i)).path part := by
    intro path hpath
    rw [(Plot.of_new (hnew i)).1] at hpath
    exact Plot.mem_files_all hpath
  by_cases hreaches : ∃ top, disk.Arrives root top
  · obtain ⟨top, htop⟩ := hreaches
    have harrives : ∀ j, disk.Arrives (Plot.ofNew (hnew j)).root top := by
      intro j
      rw [← hroot j] at htop
      exact htop
    have hseparates := Plot.separates_of_arrives hapart harrives (hlinkless top htop)
      (hserved top htop)
    refine hseparates.undisturbed _ disk (fun j => ⟨∅, Plot.keeps_live (hstands j _) _, ?_⟩) i _ ?_
    · exact Plot.abreast_start _ _ top hrooted
    · intro known shared own habreast path hpath
      obtain ⟨part, rfl⟩ := hpaths path hpath
      exact habreast.plain?_eq (harrives i) (hlinkless top htop) part
  · have hsource : ∀ j, disk.isFile ((Plot.ofNew (hnew j)).path .source) ≠ true := by
      intro j hfile
      obtain ⟨top, htop, -⟩ := Plot.exists_on_of_isFile hfile
      exact hreaches ⟨top, hroot j ▸ htop⟩
    have hseparates := Plot.separates_of_not_isFile machine rig [] hsource
    refine hseparates.undisturbed _ disk (fun j => ⟨∅, Plot.keeps_live (hstands j _) _, rfl, rfl⟩)
      i _ ?_
    rintro known shared own ⟨rfl, rfl⟩ path -
    rfl

section Sample

def pairName : Bool → String
  | true => "t"
  | false => "u"

def pairTrial (first : Bool) : Trial :=
  ⟨"c", pairName first, .locate "" "c" (pairName first), none, .unset⟩

/-- A corpus with the two tests, one of which has no golden result, beside three tools. -/
def pairDisk : Disk where
  home := []
  entries :=
    [(["as"], .file [0] true), (["od"], .file [1] true), (["sim"], .file [2] true),
      (["c"], .directory), (["c", "testResources"], .directory),
      (["c", "testResources", "assembly"], .directory),
      (["c", "testResources", "assembly", "t.s"], .file [] false),
      (["c", "testResources", "assembly", "u.s"], .file [] false),
      (["c", "testResources", "expected"], .directory),
      (["c", "testResources", "expected", "t.txt"], .file [0x37] false)]
  nodup := by decide

/-- A tool that goes by a custom for either of two calls. -/
def pairTool (custom : Custom) (call : Bool → Call) : Program := fun arguments limit disk =>
  custom.program (call (arguments = (call true).arguments)) arguments limit disk

def pairMachine : Machine where
  environment _ := none
  interpret data :=
    match data with
    | [0] => .ok (pairTool sampleCrew.assembler fun first =>
        sampleRig.assembling (pairTrial first).files)
    | [1] => .ok (pairTool sampleCrew.disassembler fun first =>
        sampleRig.disassembling (pairTrial first).files)
    | _ => .ok (pairTool sampleCrew.simulator fun first =>
        sampleRig.simulating (pairTrial first).files)

theorem pairTool_goesBy (custom : Custom) {call : Bool → Call}
    (hne : (call false).arguments ≠ (call true).arguments) (first : Bool) :
    (pairTool custom call).GoesBy custom (call first) := by
  intro disk
  have hfirst : decide ((call first).arguments = (call true).arguments) = first := by
    cases first <;> simp [hne]
  unfold pairTool
  rw [hfirst]
  exact custom.program_goesBy (call first) disk

theorem pairTrial_new (first : Bool) :
    Trial.new sampleRig "c" (pairName first) = .ok (pairTrial first) := by
  cases first <;> rfl

theorem pair_served (plots : Set Plot) (first : Bool) :
    (Plot.ofNew (pairTrial_new first)).Served pairMachine sampleRig sampleCrew plots pairDisk
      [] := by
  have houtside : ∀ tool : String, [tool] ∉ filesOf [] plots ∧ [tool] ∉ shelvesOf [] plots :=
    fun tool => Plot.resources_not_mem [] _ [tool] (by simp)
  have hslash : ∀ tool : String, '/' ∈ ("/" ++ tool).toList := by simp
  have hassembler : pairDisk.find? "/as" = some (["as"], .file [0] true) := by cbv
  have hdisassembler : pairDisk.find? "/od" = some (["od"], .file [1] true) := by cbv
  have hsimulator : pairDisk.find? "/sim" = some (["sim"], .file [2] true) := by cbv
  refine ⟨?_, ?_, ?_⟩
  · exact ⟨_, .of_find? (hslash "as") hassembler (houtside "as").1 (houtside "as").2 rfl
      (pairTool_goesBy _ (by decide) first)⟩
  · exact ⟨_, .of_find? (hslash "od") hdisassembler (houtside "od").1 (houtside "od").2 rfl
      (pairTool_goesBy _ (by decide) first)⟩
  · exact ⟨_, .of_find? (hslash "sim") hsimulator (houtside "sim").1 (houtside "sim").2 rfl
      (pairTool_goesBy _ (by decide) first)⟩

/-- Neither of the two tests notices the other one. -/
theorem live_undisturbed_pair :
    pairMachine.Undisturbed (fun first => (pairTrial first).live sampleRig [.run]) pairDisk true
        (pairTrial true).files.all ∧
      pairMachine.Undisturbed (fun first => (pairTrial first).live sampleRig [.run]) pairDisk false
        (pairTrial false).files.all := by
  have hapart : ∀ i j : Bool, i ≠ j → ("c", pairName i) ≠ ("c", pairName j) := by decide
  have hrooted : pairDisk.Rooted := Disk.rooted_of_entries (by decide)
  have hlinkless : ∀ top, pairDisk.Linkless top :=
    fun _ => Disk.linkless_of_entries (by simp [pairDisk])
  have harrives : pairDisk.Arrives sampleRig.settings.root [] := ⟨Disk.linkLimit, .here⟩
  have hpair := live_undisturbed pairMachine (fun _ => sampleCrew) (fun _ => rfl) pairTrial_new
    hapart hrooted (fun top _ => hlinkless top)
    (fun top htop first => htop.unique harrives ▸ pair_served _ first) (fun _ => [.run])
  exact ⟨hpair true, hpair false⟩

end Sample

end GoldenRun.Trial
