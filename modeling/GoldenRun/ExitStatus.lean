import GoldenRun.Text.Hex

/-!
# How a program ended

The state that the operating system reports for a program, decoded from its number, and its text.
-/

namespace GoldenRun

/-- How a program ended, or what state it is in. -/
inductive ExitStatus
  | exited (code : Nat)
  | killed (signal : Nat) (dumped : Bool)
  | stopped (signal : Nat)
  | continued
  | unknown (number : Nat)
  deriving DecidableEq, Repr

namespace ExitStatus

def isSuccess : ExitStatus → Bool
  | exited 0 => true
  | _ => false

/-- The state that a number of 32 bits stands for. The low seven bits tell the kind, the next bit a
memory dump, and the byte above them holds an exit code or the signal that stopped the program. -/
def ofNumber (number : Nat) : ExitStatus :=
  let low := number % 128
  let code := number / 256 % 256
  if low = 0 then exited code
  else if low ≠ 127 then killed low (number / 128 % 2 = 1)
  else if number % 256 = 127 then stopped code
  else if number = 65535 then continued
  else unknown number

/-- The names of the signals, from number 1 on. -/
def signalNames : List String :=
  ["SIGHUP", "SIGINT", "SIGQUIT", "SIGILL", "SIGTRAP", "SIGABRT", "SIGBUS", "SIGFPE", "SIGKILL",
   "SIGUSR1", "SIGSEGV", "SIGUSR2", "SIGPIPE", "SIGALRM", "SIGTERM", "SIGSTKFLT", "SIGCHLD",
   "SIGCONT", "SIGSTOP", "SIGTSTP", "SIGTTIN", "SIGTTOU", "SIGURG", "SIGXCPU", "SIGXFSZ",
   "SIGVTALRM", "SIGPROF", "SIGWINCH", "SIGIO", "SIGPWR", "SIGSYS"]

def showSignal (signal : Nat) : String :=
  match signal, signalNames[signal - 1]? with
  | 0, _ => "0"
  | _, some name => Nat.repr signal ++ " (" ++ name ++ ")"
  | _, none => Nat.repr signal

def display : ExitStatus → String
  | exited code => "exit status: " ++ Nat.repr code
  | killed signal dumped =>
    "signal: " ++ showSignal signal ++ (if dumped then " (core dumped)" else "")
  | stopped signal => "stopped (not terminated) by signal: " ++ showSignal signal
  | continued => "continued (WIFCONTINUED)"
  | unknown number =>
    let shown :=
      if number < Nat.pow 2 31 then Nat.repr number
      else "-" ++ Nat.repr (Nat.pow 2 32 - number)
    "unrecognised wait status: " ++ shown ++ " 0x" ++ String.ofList (Hex.shortest number)

end ExitStatus

end GoldenRun
