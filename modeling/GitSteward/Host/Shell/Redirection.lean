-- Redirections: where the descriptors of a command lead while it is run.
import GitSteward.Host.Shell.Expansion
import GitSteward.Host.Shell.Jobs

namespace GitSteward.Host.Shell

namespace Shelling

def openMode : RedirectionKind → OpenMode
  | .input => .read
  | .output | .overwrite => .write
  | .append => .append
  | .both | .duplicate | .document => .both

/-- What is said of a file that cannot be opened. -/
def openProblem (kind : RedirectionKind) (name : String) : PathError → String
  | .missing | .notDirectory =>
    if kind = .input then "cannot open " ++ name ++ ": No such file"
    else "cannot create " ++ name ++ ": Directory nonexistent"
  | e =>
    (if kind = .input then "cannot open " else "cannot create ") ++ name ++ ": " ++
    systemErrorText e.number

/-- Complains of a script that cannot be read, as it stands at the place up to which it was read,
and leaves it. -/
def giveReading (line : Nat) (text : String) : Shelling α := do
  modifyShell fun s => { s with line }
  give text

/-- The target of a redirection, unless that is a document. -/
def targetOf (run : Command → Shelling String) (r : Redirection) : Shelling String := do
  match r.kind with
  | .document => return ""
  | .duplicate =>
    let target ← expandText run r.target
    if target ≠ "-" && target.toNat?.isNone then
      giveReading (← shell).lastLine "Syntax error: Bad fd number"
    return target
  | _ => expandText run r.target

/-- Makes a redirection to a target. The result is what is wrong with it. A descriptor that was to
lead to where another one leads is closed even if that leads nowhere. -/
def redirect (run : Command → Shelling String) (r : Redirection) (target : String) :
    Shelling (Option String) := do
  match r.kind with
  | .document =>
    let document ← expandText run r.target
    let _ ← lift (Doing.newPipe (widen document) fun number => [(r.fd, .source number)])
    return none
  | .duplicate =>
    match target.toNat? with
    | none =>
      lift (Doing.setChannel r.fd none)
      return none
    | some fd =>
      if fd = r.fd then return none
      match (← lift get).channel fd with
      | some c => lift (Doing.setChannel r.fd (some c)); return none
      | none =>
        lift (Doing.setChannel r.fd none)
        return some (toString fd ++ ": Bad file descriptor")
  | .output =>
    let s ← lift get
    if (← shell).has "noclobber" then
      match s.files.find s.me.dir (toText target) with
      | .ok (_, .file _ _) => return some ("cannot create " ++ target ++ ": File exists")
      | .ok (_, .directory) => return some ("cannot open " ++ target ++ ": Is a directory")
      | _ => opened .output
    else opened .output
  | kind => opened kind
where
  /-- Opens the target. -/
  opened (kind : RedirectionKind) : Shelling (Option String) := do
    match ← lift (Doing.openPath (toText target) (openMode kind)) with
    | .ok c => lift (Doing.setChannel r.fd (some c)); return none
    | .error e => return some (openProblem kind target e)

/-- Makes redirections one after the other, up to the first that fails, after all that is expanded
but documents. The result tells whether all were made. -/
def redirectAll (run : Command → Shelling String) (rs : List Redirection) : Shelling Bool := do
  let targets ← rs.mapM (targetOf run)
  let rec go : List (Redirection × String) → Shelling Bool
    | [] => return true
    | (r, target) :: rest => do
      match ← redirect run r target with
      | some problem =>
        complain problem
        return false
      | none => go rest
  try go (rs.zip targets)
  catch e => if e = .broken then return false else throw e

/-- Keeps a copy of where a descriptor leads, so that it stays open. The result is where the copy
is, if it leads anywhere. -/
def saveChannel (fd : Nat) : Shelling (Nat × Option Nat) := lift (modifyGet fun s =>
  match s.channel fd with
  | none => ((fd, none), s)
  | some c =>
    let copy := ownDescriptor + 2 * s.nextNumber
    ((fd, some copy), ({ s with nextNumber := s.nextNumber + 1 } : Scene).setChannel copy (some c)))

/-- Lets descriptors lead to where they led when they were saved. -/
def restoreChannels (saved : List (Nat × Option Nat)) : Shelling Unit := lift (modify fun s =>
  (saved.foldl (fun s p => match p.2 with
    | some copy => (s.setChannel p.1 (s.channel copy)).setChannel copy none
    | none => s.setChannel p.1 none) s).sweep)

/-- Does something under redirections, which are undone afterwards. If they cannot be made that
ends the script in front of a special command, and else counts as a failure of the command, after
which something else is done. -/
def redirected (run : Command → Shelling String) (special : Bool) (rs : List Redirection)
    (failure action : Shelling Unit) : Shelling Unit := do
  if rs.isEmpty then action
  else
    let saved ← (rs.map (·.fd)).eraseDups.mapM saveChannel
    try
      if ← redirectAll run rs then action
      else if special then throw .broken
      else
        setStatus 2
        failure
    catch e =>
      restoreChannels saved
      throw e
    restoreChannels saved

end Shelling

end GitSteward.Host.Shell
