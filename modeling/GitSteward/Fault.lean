-- What may go wrong with a request, how it is told, and how raw outcomes of processes are
-- sorted into it.
import GitSteward.Fault.SystemError
import GitSteward.Fault.WaitStatus
import GitSteward.Text.CharSet
import GitSteward.Text.Lossy

namespace GitSteward

/-- The standard streams of a process. -/
inductive StreamName where
  | stdin
  | stdout
  | stderr
deriving Repr, DecidableEq, Inhabited

namespace StreamName

def all : List StreamName := [stdin, stdout, stderr]

def text : StreamName → String
  | stdin => "stdin"
  | stdout => "stdout"
  | stderr => "stderr"

end StreamName

inductive Fault where
  /-- no service has this name, or it is not served -/
  | unsupported (name : String)
  /-- the directory or the program does not exist -/
  | invalidRepository
  /-- the process could not be started -/
  | start (error : SystemError)
  /-- the process could not be waited for -/
  | wait (error : SystemError)
  /-- the process ended badly: its status and the end of its error output -/
  | exit (status : WaitStatus) (stderr : String)
  /-- a stream broke. Such a fault is reported and never ends a request. -/
  | streamCopy (stream : StreamName) (error : SystemError)
  /-- the request was cancelled -/
  | cancelled
  /-- a handler failed: its message, and those of the causes inside it -/
  | handler (message : String) (causes : List String)
deriving Repr, DecidableEq, Inhabited

namespace Fault

/-- The message of a fault. -/
def message : Fault → String
  | unsupported name => "unsupported service: " ++ name
  | invalidRepository => "invalid repository"
  | start e => "failed to start process: " ++ e.message
  | wait e => "failed to wait for process: " ++ e.message
  | exit status stderr => if stderr.isEmpty then status.text else status.text ++ ": " ++ stderr
  | streamCopy stream e => "failed to copy " ++ stream.text ++ ": " ++ e.message
  | cancelled => "service invocation cancelled"
  | handler message _ => message

/-- The message of what caused a fault. -/
def source : Fault → Option String
  | start e | wait e | streamCopy _ e => some e.message
  | handler _ causes => causes.head?
  | unsupported _ | invalidRepository | exit _ _ | cancelled => none

/-- Whether the same request may well succeed later: only where the handling of processes
itself failed. -/
def isRetryable : Fault → Bool
  | start _ | wait _ => true
  | _ => false

/-- The label of a fault in logs and metrics. -/
def label : Fault → String
  | unsupported _ => "unsupported"
  | invalidRepository => "invalid_repository"
  | start _ => "start_error"
  | wait _ => "wait_error"
  | exit _ _ => "exit_error"
  | streamCopy _ _ => "stream_copy_error"
  | cancelled => "cancelled"
  | handler _ _ => "handler_error"

/-! ## Sorting raw outcomes -/

/-- The fault of a process that could not be started. -/
def ofStart (e : SystemError) : Fault := if e.isMissingPath then invalidRepository else start e

/-- The fault of a process that could not be waited for. -/
def ofWait (e : SystemError) : Fault := if e.isMissingPath then invalidRepository else wait e

/-- Error output as it is kept in a fault: as text, without the white space at its end. -/
def stderrText (captured : Bytes) : String := Text.trimEnd (Text.lossy captured)

end Fault

/-- How a request ended. -/
abbrev Outcome := Except Fault Unit

namespace Outcome

/-- The outcome of a process that ended, with what was kept of its error output. -/
def ofExit (status : WaitStatus) (captured : Bytes) : Outcome :=
  if status.isSuccess then .ok () else .error (.exit status (Fault.stderrText captured))

/-- The label of an outcome in metrics. -/
def label : Outcome → String
  | .ok () => "ok"
  | .error fault => fault.label

end Outcome

end GitSteward
