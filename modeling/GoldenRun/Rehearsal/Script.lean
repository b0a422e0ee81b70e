import GoldenRun.Machine
import GoldenRun.Text.Blank

/-!
# Scripted tools

A tool that stands in for a real one follows a script: it prints, reads and writes the files that
its arguments name, waits, and ends with a code or by a signal.
-/

namespace GoldenRun.Rehearsal

/-- One thing that a scripted tool does. Arguments are counted from one. -/
inductive Act
  | print (data : Bytes)
  | complain (data : Bytes)
  | printFile (source : Nat)
  | copy (source target : Nat)
  | write (target : Nat) (data : Bytes)
  | writeArguments (target : Nat)
  | log (path : Path)
  | remove (target : Nat)
  | failIf (source : Nat) (text : Bytes) (complaint : Bytes) (code : Nat)
  | exit (code : Nat)
  | signal (number : Nat)
  | hang
  deriving DecidableEq

/-- What a scripted tool does, from beginning to end. -/
abbrev Script := List Act

/-- A scripted tool at work: what it has done so far, and for how long. -/
structure Progress where
  disk : Disk
  output : Bytes
  diagnostics : Bytes
  elapsed : Duration

/-- What follows an act: the next one, or the end. A tool that is still running at the end of its
time has no status. -/
inductive Turn
  | next (progress : Progress)
  | stop (progress : Progress) (status : Option ExitStatus)

namespace Progress

/-- How many seconds a tool hangs. -/
def pause : Nat := 30

/-- The code of a tool that cannot read a file. -/
def unreadable : Nat := 9

def argument? (arguments : List String) (number : Nat) : Option String :=
  if number = 0 then none else arguments[number - 1]?

def content? (progress : Progress) (arguments : List String) (number : Nat) : Option Bytes :=
  (argument? arguments number).bind fun path =>
    match progress.disk.read path with
    | .ok data => some data
    | .error _ => none

def writeTo (progress : Progress) (path : Option Path) (data : Bytes) : Progress :=
  match path with
  | some path => { progress with disk := (progress.disk.write path data).2 }
  | none => progress

def exit (progress : Progress) (code : Nat) : Turn :=
  .stop progress (some (.exited (code % 256)))

def occursIn (part : Bytes) : Bytes → Bool
  | [] => part.isEmpty
  | b :: rest => part.isPrefixOf (b :: rest) || occursIn part rest

def isLate (progress : Progress) : Option Duration → Bool
  | some limit => limit.total ≤ progress.elapsed.total
  | none => false

def logLine (arguments : List String) : Bytes :=
  Utf8.encode (" ".intercalate arguments ++ "\n").toList

def perform (progress : Progress) (arguments : List String) : Act → Turn
  | .print data => .next { progress with output := progress.output ++ data }
  | .complain data => .next { progress with diagnostics := progress.diagnostics ++ data }
  | .printFile source =>
    match progress.content? arguments source with
    | some data => .next { progress with output := progress.output ++ data }
    | none => progress.exit unreadable
  | .copy source target =>
    match progress.content? arguments source with
    | some data => .next (progress.writeTo (argument? arguments target) data)
    | none => progress.exit unreadable
  | .write target data => .next (progress.writeTo (argument? arguments target) data)
  | .writeArguments target =>
    .next (progress.writeTo (argument? arguments target)
      (arguments.flatMap fun a => Utf8.encode (a ++ "\n").toList))
  | .log path =>
    let before := match progress.disk.read path with
      | .ok data => data
      | .error _ => []
    .next (progress.writeTo (some path) (before ++ logLine arguments))
  | .remove target =>
    match argument? arguments target with
    | some path =>
      match progress.disk.removeFile path with
      | .ok disk => .next { progress with disk := disk }
      | .error _ => .next progress
    | none => .next progress
  | .failIf source text complaint code =>
    match progress.content? arguments source with
    | some data =>
      if occursIn text data then
        { progress with diagnostics := progress.diagnostics ++ complaint }.exit code
      else .next progress
    | none => .next progress
  | .exit code => progress.exit code
  | .signal number => .stop progress (some (.killed number false))
  | .hang => .next { progress with elapsed := ⟨progress.elapsed.seconds + pause, 0⟩ }

def performAll (arguments : List String) (limit : Option Duration) (progress : Progress) :
    Script → Progress × Option ExitStatus
  | [] => if progress.isLate limit then (progress, none) else (progress, some (.exited 0))
  | act :: rest =>
    if progress.isLate limit then (progress, none)
    else
      match progress.perform arguments act with
      | .next after => performAll arguments limit after rest
      | .stop after status => (after, status)

end Progress

def Script.toProgram (script : Script) : Program := fun arguments limit disk =>
  let (progress, status) :=
    Progress.performAll arguments limit ⟨disk, [], [], ⟨0, 0⟩⟩ script
  ⟨progress.disk, progress.output, progress.diagnostics, status⟩

/-- The content of the executable file of a script, given its number. -/
def scriptFile (number : Nat) : Bytes :=
  Utf8.encode ("#! script " ++ Nat.repr number ++ "\n").toList

/-- The scripts of a rehearsal, the last first. -/
abbrev Scripts := List Script

namespace Scripts

def find? : Scripts → Bytes → Option Script
  | [], _ => none
  | script :: rest, data =>
    if data = scriptFile rest.length then some script else find? rest data

def shellMark : Bytes :=
  Utf8.encode "#!/bin/sh\n".toList

/-- What executable files mean. Apart from scripts, the shell is known to do nothing with an empty
file of its own. -/
def interpret (scripts : Scripts) (data : Bytes) : Except Fault Program :=
  match scripts.find? data with
  | some script => .ok script.toProgram
  | none => if data = shellMark then .ok (Script.toProgram []) else .error .notAProgram

end Scripts

end GoldenRun.Rehearsal
