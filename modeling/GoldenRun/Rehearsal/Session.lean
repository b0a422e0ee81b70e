import GoldenRun.Command.Execution
import GoldenRun.Disk.Changes
import GoldenRun.Rehearsal.Script

/-!
# Sessions

A session goes through the operations of the library one by one, on a file system of its own and
with scripted tools. It keeps the settings and the rig in force, and the trials by the names that
they were given.
-/

namespace GoldenRun.Rehearsal

inductive Item
  | file (data : Bytes) (executable : Bool)
  | directory
  | link (target : Path)
  | tool (script : Script)
  deriving DecidableEq

/-- What a session keeps between two operations. -/
structure Session where
  environment : Environment
  scripts : Scripts
  disk : Disk
  settings : Settings
  rig : Rig
  trials : List (String × Rig × Trial)

/-- How a pattern for a tool is asked for. -/
inductive PatternChoice
  | given (spec : PatternSpec)
  | defaultAssembler
  | defaultDisassembler
  deriving DecidableEq, Repr

def PatternChoice.spec : PatternChoice → PatternSpec
  | given spec => spec
  | defaultAssembler => .defaultAssembler
  | defaultDisassembler => .defaultDisassembler

inductive Operation
  | put (path : Path) (item : Item)
  | remove (path : Path)
  | read (path : Path)
  | tree
  | load (path : Path)
  | loadEnvironment
  | equip
  | equipEnvironment
  | equipWith (assembler disassembler : Path)
  | locate (tool : Tool) (choice : PatternChoice) (searchPath : Option String) (root : Option Path)
  | enter (id category name : String)
  | build (id : String)
  | run (id : String)
  | runDetailed (id : String)
  | discard (id : String)
  | assemble (source object : Path)
  | disassemble (object listing : Path)
  | extract (listing image : Path)
  | simulate (simulator : Option Simulator) (image result : Path)
  | compare (rule : Option LengthRule) (actual expected : Path)
  | discover (directory : Path)
  | generate (directory output : Path) (category : String)
  | command (arguments : List String)

inductive Answer
  | nothing
  | unknownTrial
  | failure (failure : Failure)
  | content (data : Option Bytes)
  | tree (entries : List (Place × Entry))
  | settings (settings : Settings)
  | rig (rig : Rig)
  | path (path : Path)
  | trial (trial : Trial)
  | image (image : Image)
  | passed (passed : Bool)
  | comparison (comparison : Comparison)
  | count (count : Nat)
  | generation (answer : Except Failure Nat) (written : Bool)
  | names (names : List String)
  | report (report : Report)
  | usage

namespace Session

def firstRig : Rig :=
  ⟨{}, "none/as", "none/objdump"⟩

def start (environment : Environment) (home : Place) : Session where
  environment := environment
  scripts := []
  disk := (Disk.empty home).put home .directory
  settings := {}
  rig := firstRig
  trials := []

def machine (session : Session) : Machine :=
  ⟨session.environment, session.scripts.interpret⟩

/-- The entry of an item, with the scripts that are then known. -/
def entryOf (scripts : Scripts) : Item → Entry × Scripts
  | .file data executable => (.file data executable, scripts)
  | .directory => (.directory, scripts)
  | .link target => (.link target, scripts)
  | .tool script => (.file (scriptFile scripts.length) true, script :: scripts)

/-- The directory in which an entry of a path is made, with all that is missing above it. -/
def prepare (disk : Disk) (path : Path) : Disk :=
  match path.directory? with
  | some directory => (disk.makeDirectories directory).2
  | none => disk

/-- Puts an entry at a path, over whatever is there. -/
def putAt (disk : Disk) (path : Path) (entry : Entry) : Disk :=
  let ready := prepare disk path
  match ready.resolveAlong false path path.steps with
  | .ok (.entry place found) =>
    if found = .directory ∧ entry = .directory then ready else ready.put place entry
  | .ok (.vacant directory name) => ready.put (directory ++ [name]) entry
  | .error _ => ready

def put (session : Session) (path : Path) (item : Item) : Session :=
  let (entry, scripts) := entryOf session.scripts item
  { session with disk := putAt session.disk path entry, scripts := scripts }

def removeTree (disk : Disk) (path : Path) : Disk :=
  match disk.resolveAlong false path path.steps with
  | .ok (.entry place _) =>
    (disk.entries.filter fun (other, _) => place.isPrefixOf other).foldl
      (fun rest (other, _) => rest.erase other) disk
  | _ => disk

def isScript (session : Session) (data : Bytes) : Bool :=
  (session.scripts.find? data).isSome

def attempt {α : Type} (session : Session) (attempt : Attempt α) (answer : α → Answer) :
    Answer × Session :=
  let (result, disk) := session.machine.run attempt.job session.disk
  match result with
  | .ok value => (answer value, { session with disk := disk })
  | .error failure => (.failure failure, { session with disk := disk })

def trial? (session : Session) (id : String) : Option (Rig × Trial) :=
  session.trials.lookup id

def forget (session : Session) (id : String) : Session :=
  { session with trials := session.trials.filter (·.1 != id) }

def keep (session : Session) (id : String) (rig : Rig) (trial : Trial) : Session :=
  { session with trials := (id, rig, trial) :: (session.forget id).trials }

def discardTrial (session : Session) (id : String) : Session :=
  match session.trial? id with
  | some (rig, trial) =>
    let ((), disk) := session.machine.run (trial.discard rig) session.disk
    { session.forget id with disk := disk }
  | none => session

def equipped (session : Session) : Except Failure Rig → Answer × Session
  | .ok rig => (.rig rig, { session with rig := rig })
  | .error failure => (.failure failure, session)

def configured (session : Session) : Except Failure Settings → Answer × Session
  | .ok settings => (.settings settings, { session with settings := settings })
  | .error failure => (.failure failure, session)

def onTrial {α : Type} (session : Session) (id : String)
    (work : Rig → Trial → Job (Except Failure α × Trial)) (answer : α → Answer) :
    Answer × Session :=
  match session.trial? id with
  | none => (.unknownTrial, session)
  | some (rig, trial) =>
    let ((result, after), disk) := session.machine.run (work rig trial) session.disk
    let next := { session.keep id rig after with disk := disk }
    match result with
    | .ok value => (answer value, next)
    | .error failure => (.failure failure, next)

def answerOf {α : Type} (answer : α → Answer) : Except Failure α → Answer
  | .ok value => answer value
  | .error failure => .failure failure

def perform (session : Session) : Operation → Answer × Session
  | .put path item => (.nothing, session.put path item)
  | .remove path => (.nothing, { session with disk := removeTree session.disk path })
  | .read path =>
    (.content (match session.disk.read path with
      | .ok data => some data
      | .error _ => none), session)
  | .tree => (.tree session.disk.contents, session)
  | .load path => session.configured (Settings.load session.disk path)
  | .loadEnvironment =>
    session.configured (Settings.ofEnvironment session.disk session.environment)
  | .equip => session.equipped (Rig.ofSettings session.disk session.environment session.settings)
  | .equipEnvironment =>
    session.equipped do
      let settings ← Settings.ofEnvironment session.disk session.environment
      Rig.ofSettings session.disk session.environment settings
  | .equipWith assembler disassembler =>
    session.equipped (.ok ⟨session.settings, assembler, disassembler⟩)
  | .locate tool choice searchPath root =>
    (answerOf .path do
      let pattern ← ToolPattern.ofSpec choice.spec
      (Search.new {} searchPath root).locate session.disk tool pattern, session)
  | .enter id category name =>
    match Trial.new session.rig category name with
    | .ok trial => (.trial trial, (session.discardTrial id).keep id session.rig trial)
    | .error failure => (.failure failure, session)
  | .build id => session.onTrial id (fun rig trial => trial.build rig) .image
  | .run id => session.onTrial id (fun rig trial => trial.check rig) .passed
  | .runDetailed id => session.onTrial id (fun rig trial => trial.run rig) .comparison
  | .discard id =>
    if (session.trial? id).isSome then (.nothing, session.discardTrial id)
    else (.unknownTrial, session)
  | .assemble source object =>
    session.attempt (session.rig.toolchain.assemble source object) fun _ => .nothing
  | .disassemble object listing =>
    session.attempt (session.rig.toolchain.disassemble object listing) fun _ => .nothing
  | .extract listing image => session.attempt (Image.extract listing image) .count
  | .simulate simulator image result =>
    session.attempt ((simulator.getD session.rig.simulator).invoke image result) fun _ => .nothing
  | .compare rule actual expected =>
    session.attempt
      (Comparison.ofFiles (rule.getD session.rig.settings.lengthRule) actual expected) .comparison
  | .discover directory => (answerOf .names (Corpus.discover session.disk directory), session)
  | .generate directory output category =>
    let generation := Suite.generate session.disk directory output category
    (.generation generation.answer generation.written, { session with disk := generation.disk })
  | .command arguments =>
    match Command.parse? arguments with
    | none => (.usage, session)
    | some invocation =>
      let (report, disk) := invocation.execute session.machine session.disk
      (.report report, { session with disk := disk })

end Session

end GoldenRun.Rehearsal
