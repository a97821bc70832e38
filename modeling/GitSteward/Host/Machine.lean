-- A machine: its processes and what each of them is still to do. One process goes on at a time,
-- until it has to wait, ends, or has done something to the pipes of its client.
import GitSteward.Host.Course

namespace GitSteward.Host

structure Machine where
  scene : Scene := {}
  /-- what the processes are still to do, by their numbers -/
  courses : List (Nat × Course) := []
deriving Inhabited

namespace Machine

def ofFiles (files : Files) : Machine := { scene := { files } }

/-- Notes what a process is still to do, unless it has ended. -/
def keep (m : Machine) (pid : Nat) (c : Course) : Machine :=
  let others := m.courses.filter (·.1 ≠ pid)
  { m with courses := if m.scene.isAlive pid then (pid, c) :: others else others }

/-- Whether a process may go on: it lives, does not stand still, and has done nothing that is to be
looked at. -/
def mayGoOn (m : Machine) (pid : Nat) : Bool :=
  m.scene.moves.isEmpty && (m.scene.find? pid).any fun p => p.lives && !p.paused

/-- The machine after a step of a process, and what that is still to do, unless the step cannot be
taken now. -/
def step (m : Machine) (pid : Nat) : Course → Option (Course × Machine)
  | .ended code =>
    some (.ended code, { m with scene := m.scene.finish pid (.exited (code % 256)) })
  | .step go => (go { m.scene with current := pid }).map fun r => (r.1, { m with scene := r.2 })
  | .fork change child next =>
    let (childPid, scene) := ({ m.scene with current := pid } : Scene).fork change
    some (next childPid, { scene, courses := (childPid, child) :: m.courses })

/-- The machine after a process has gone on as far as it may. -/
def goOn (pid : Nat) : Nat → Course → Machine → Machine
  | 0, c, m => m.keep pid c
  | fuel + 1, c, m =>
    if m.mayGoOn pid then
      match m.step pid c with
      | some (c, m) => goOn pid fuel c m
      | none => m.keep pid c
    else m.keep pid c

/-- More steps than a process takes without waiting. -/
def stepLimit : Nat := 1_000_000_000_000

/-- The machine after a process has taken at least one step, if it can. -/
def turn? (m : Machine) (pid : Nat) : Option Machine := do
  if !m.mayGoOn pid then none
  else
    let (c, m) ← m.step pid (← m.courses.lookup pid)
    return goOn pid stepLimit c m

/-- The machine with a new first process of a request, and the number of that. -/
def start (m : Machine) (p : Process) (d : Doing Nat) : Nat × Machine :=
  let pid := m.scene.nextPid
  let scene := ({ m.scene with nextPid := pid + 1 } : Scene).add { p with pid }
  let c := Doing.course do
    Doing.pass startupTime
    d
  (pid, { scene, courses := (pid, c) :: m.courses })

/-- The times at which processes go on that wait for a time. -/
def alarms (m : Machine) : List Nat :=
  m.scene.processes.filterMap fun p => if p.paused then none else p.alarm

end Machine

end GitSteward.Host
