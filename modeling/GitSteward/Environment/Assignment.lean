-- Assignments of variables as single texts, `NAME=VALUE`. The first equals sign divides such a
-- text, so a name that holds one would not come back as it was.
import GitSteward.Environment

namespace GitSteward

/-- What stands before the first equals sign, and what stands after it. -/
def splitAtEquals : List Char → Option (List Char × List Char)
  | [] => none
  | c :: cs => if c = '=' then some ([], cs) else (splitAtEquals cs).map fun p => (c :: p.1, p.2)

/-- The two sides of the first equals sign of a text. -/
def splitAssignment (s : String) : Option (String × String) :=
  (splitAtEquals s.toList).map fun p => (String.ofList p.1, String.ofList p.2)

/-- The assignment that a text makes. The name must not be empty. -/
def assignment? (s : String) : Option (String × String) :=
  match splitAssignment s with
  | some (name, value) => if name.isEmpty then none else some (name, value)
  | none => none

/-- An assignment as a single text. -/
def assignmentText (a : String × String) : String := a.1 ++ "=" ++ a.2

/-- The environment as a process gets it: one text for each variable. -/
def Environment.block (env : Environment) : List String := env.entries.map assignmentText

end GitSteward
