-- How a process ended, as the operating system packs it into one word: the low seven bits
-- tell the signal that ended it, the eighth whether it left a core, the next byte its code.

namespace GitSteward

/-- The word that tells how a process ended. -/
structure WaitStatus where
  word : UInt32
deriving Repr, DecidableEq, Inhabited

namespace WaitStatus

/-- The status of a process that ended by itself with a code. -/
def exited (code : UInt8) : WaitStatus := ⟨code.toUInt32 * 256⟩

/-- The status of a process that a signal ended. -/
def signaled (signal : Nat) : WaitStatus := ⟨(signal % 127).toUInt32⟩

/-- Whether the process ended well. -/
def isSuccess (s : WaitStatus) : Bool := s.word = 0

/-- The low seven bits. -/
def low (s : WaitStatus) : Nat := s.word.toNat % 128

/-- The second byte. -/
def high (s : WaitStatus) : Nat := s.word.toNat / 256 % 256

/-- The code of a process that ended by itself. -/
def code? (s : WaitStatus) : Option Nat := if s.low = 0 then some s.high else none

/-- The signal that ended a process. -/
def signal? (s : WaitStatus) : Option Nat :=
  if s.low = 0 || s.low = 127 then none else some s.low

/-- Whether the process left a core. -/
def hasCore (s : WaitStatus) : Bool := s.word.toNat / 128 % 2 = 1

/-- The signal that stopped a process. -/
def stop? (s : WaitStatus) : Option Nat :=
  if s.word.toNat % 256 = 127 then some s.high else none

/-- Whether the process was continued. -/
def isContinued (s : WaitStatus) : Bool := s.word = 0xFFFF

/-- The names of the signals, from number 1 on. -/
def signalNames : List String := [
  "SIGHUP", "SIGINT", "SIGQUIT", "SIGILL", "SIGTRAP", "SIGABRT", "SIGBUS", "SIGFPE",
  "SIGKILL", "SIGUSR1", "SIGSEGV", "SIGUSR2", "SIGPIPE", "SIGALRM", "SIGTERM", "SIGSTKFLT",
  "SIGCHLD", "SIGCONT", "SIGSTOP", "SIGTSTP", "SIGTTIN", "SIGTTOU", "SIGURG", "SIGXCPU",
  "SIGXFSZ", "SIGVTALRM", "SIGPROF", "SIGWINCH", "SIGIO", "SIGPWR", "SIGSYS"]

/-- A signal by number, and by name if it has one. -/
def signalText (n : Nat) : String :=
  match if n = 0 then none else signalNames[n - 1]? with
  | some name => toString n ++ " (" ++ name ++ ")"
  | none => toString n

/-- The word in hexadecimal digits. -/
def hexText (s : WaitStatus) : String := "0x" ++ String.ofList (Nat.toDigits 16 s.word.toNat)

/-- How a process ended, in words. -/
def text (s : WaitStatus) : String :=
  match s.code?, s.signal?, s.stop? with
  | some code, _, _ => "exit status: " ++ toString code
  | none, some n, _ => "signal: " ++ signalText n ++ (if s.hasCore then " (core dumped)" else "")
  | none, none, some n => "stopped (not terminated) by signal: " ++ signalText n
  | none, none, none =>
    if s.isContinued then "continued (WIFCONTINUED)"
    else "unrecognised wait status: " ++ toString s.word.toInt32.toInt ++ " " ++ s.hexText

end WaitStatus

end GitSteward
