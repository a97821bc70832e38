-- Reading a configuration from the tree of a document, in the order of the text, so that the
-- first thing that is wrong is the one that is told. Fields that are not known are passed
-- over, whatever they hold.
import GitSteward.Config
import GitSteward.Config.Misfit

namespace GitSteward

open Yaml

/-- What reading a part of a configuration gives. -/
abbrev Decoded := Except DecodeError

namespace Decode

variable (d : Document)

/-- The node that a node stands for. -/
def follow : Node → Node
  | .alias _ target => d.target target
  | node => node

/-- The error of a node that is not what is expected. -/
def unfit (path : List String) (expected : String) (node : Node) : DecodeError :=
  let misfit (what : Misfit) := DecodeError.misfit what (some ⟨path, node.mark⟩)
  match node with
  | .scalar _ s =>
    match s.value with
    | .ok value => misfit (.wrongKind (.ofValue value) expected)
    | .error wanted => misfit (.wrongText s.text wanted)
  | .sequence .. => misfit (.wrongKind .sequence expected)
  | .mapping .. => misfit (.wrongKind .map expected)
  | .alias .. | .missing => .malformed (d.broken.getD .order)

/-! ## Scalars -/

/-- The text of a scalar, whatever it stands for. -/
def text (path : List String) (expected : String) (node : Node) : Decoded String :=
  match follow d node with
  | .scalar _ s => .ok s.text
  | node => .error (unfit d path expected node)

/-- A truth value. -/
def bool (path : List String) (node : Node) : Decoded Bool :=
  let node := follow d node
  let read := match node with
    | .scalar _ s => if s.canBe boolTag then readBool? s.text else none
    | _ => none
  match read with
  | some b => .ok b
  | none => .error (unfit d path "a boolean" node)

/-- A number of 64 bits. `expected` names its role. -/
def word (path : List String) (expected : String) (node : Node) : Decoded Nat :=
  let node := follow d node
  let read := match node with
    | .scalar _ s => if s.canBe intTag then readUnsigned? maxWord s.text else none
    | _ => none
  match read with
  | some n => .ok n
  | none => .error (unfit d path expected node)

/-- The form of log lines that a name stands for. -/
def formatNamed (name : String) (place : Option Place) : Decoded LogFormat :=
  if name = "json" then .ok .json
  else if name = "pretty" then .ok .pretty
  else .error (.misfit (.unknownVariant name) place)

/-- A form of log lines, named by a text or by the tag of nothing. -/
def writtenFormat (path : List String) (node : Node) : Decoded LogFormat := do
  let place : Place := ⟨path, node.mark⟩
  let wrong (what : Misfit) : DecodeError := .misfit what (some place)
  let untagged := "a YAML tag starting with '!'"
  match node with
  | .scalar _ s =>
    match localName? s.tag with
    | some name =>
      let format ← formatNamed name none
      if s.style = .plain && (s.text.isEmpty || isNull s.text) then return format
      throw (wrong (.wrongText s.text "null"))
    | none => formatNamed s.text (some place)
  | .sequence _ tag _ =>
    match localName? tag with
    | some name =>
      let _ ← formatNamed name none
      throw (wrong (.wrongKind .sequence "unit"))
    | none => throw (wrong (.wrongKind .sequence untagged))
  | .mapping _ tag _ =>
    match localName? tag with
    | some name =>
      let _ ← formatNamed name none
      throw (wrong (.wrongKind .map "unit"))
    | none => throw (wrong (.wrongKind .map untagged))
  | node => throw (unfit d path "" node)

/-- A form of log lines, or an alias of one. The name of a tag has no place of its own, and
behind an alias it is told at that. -/
def format (path : List String) (node : Node) : Decoded LogFormat :=
  match node with
  | .alias mark target => (writtenFormat d path (d.target target)).mapError (·.locate ⟨path, mark⟩)
  | node => writtenFormat d path node

/-! ## Mappings -/

/-- The entries of a mapping and where it starts. A scalar that is not written is a mapping
without entries. -/
def entries (path : List String) (expected : String) (node : Node) :
    Decoded (List (Node × Node) × Mark) :=
  match follow d node with
  | .mapping mark _ entries => .ok (entries, mark)
  | .scalar mark s =>
    if s.text.isEmpty && s.style = .plain then .ok ([], mark)
    else .error (unfit d path expected (.scalar mark s))
  | node => .error (unfit d path expected node)

/-- The path to the value of an entry. A key that is no scalar has no name. -/
def valuePath (path : List String) (key : Node) : List String :=
  match key with
  | .scalar _ s => path ++ [s.text]
  | _ => path ++ ["?"]

/-- Assignments of variables, the last one of a name counting. -/
def assignments (path : List String) (node : Node) : Decoded Environment := do
  let (entries, _) ← entries d path "a map" node
  entries.foldlM (fun env (key, value) => do
    let name ← text d path "a string" key
    return env.set name (← text d (valuePath path key) "a string" value)) .empty

/-- Reads the entries of a section whose fields are `names`. `set` puts the value of a field
into what was read before; `seen` are the fields that are set. -/
def fields {α : Type} (names : List String)
    (set : String → List String → Node → α → Decoded α) (place : Place) :
    List (Node × Node) → List String → α → Decoded α
  | [], _, read => .ok read
  | (key, value) :: rest, seen, read => do
    let name ← text d place.path "field identifier" key
    if names.contains name then
      if seen.contains name then throw (.misfit (.duplicateField name) (some place))
      let read ← (set name (valuePath place.path key) value read).mapError (·.locate place)
      fields names set place rest (name :: seen) read
    else fields names set place rest seen read

/-- Reads a section. -/
def sectionOf {α : Type} (expected : String) (names : List String)
    (set : String → List String → Node → α → Decoded α) (path : List String) (node : Node)
    (unset : α) : Decoded α := do
  let (entries, mark) ← entries d path expected node
  fields d names set ⟨path, mark⟩ entries [] unset

/-! ## The configuration -/

def setGit (name : String) (path : List String) (value : Node) (git : GitSection) :
    Decoded GitSection := do
  match name with
  | "program" => return { git with program := ← text d path "a string" value }
  | "stderr_capture_limit" => return { git with captureLimit := ← word d path "usize" value }
  | "timeout_secs" => return { git with timeoutSeconds := ← word d path "u64" value }
  | "env" => return { git with env := ← assignments d path value }
  | _ => return git

def setLfs (name : String) (path : List String) (value : Node) (lfs : LfsSection) :
    Decoded LfsSection := do
  match name with
  | "enabled" => return { lfs with enabled := ← bool d path value }
  | "transfer_program" => return { lfs with transferProgram := ← text d path "a string" value }
  | "authenticate_program" =>
    return { lfs with authenticateProgram := ← text d path "a string" value }
  | _ => return lfs

def setLog (name : String) (path : List String) (value : Node) (log : LogSection) :
    Decoded LogSection := do
  match name with
  | "format" => return { log with format := ← format d path value }
  | _ => return log

def gitFields : List String := ["program", "stderr_capture_limit", "timeout_secs", "env"]

def lfsFields : List String := ["enabled", "transfer_program", "authenticate_program"]

def logFields : List String := ["format"]

def setConfig (name : String) (path : List String) (value : Node) (config : Config) :
    Decoded Config := do
  match name with
  | "git" =>
    let git ← sectionOf d "struct GitConfig" gitFields (setGit d) path value {}
    return { config with git := git }
  | "lfs" =>
    let lfs ← sectionOf d "struct LfsConfig" lfsFields (setLfs d) path value {}
    return { config with lfs := lfs }
  | "log" =>
    let log ← sectionOf d "struct LogConfig" logFields (setLog d) path value {}
    return { config with log := log }
  | _ => return config

def configFields : List String := ["git", "lfs", "log"]

/-- The configuration that a tree holds. -/
def config (node : Node) : Decoded Config :=
  sectionOf d "struct Config" configFields (setConfig d) [] node {}

end Decode

/-- The configuration of a document. No document at all sets nothing. A document that breaks
off, or does not end the text, is refused once all that it holds fits. -/
def Config.ofDocument (d : Document) : Decoded Config := do
  let config ← (match d.root with
    | some node => Decode.config d node
    | none => .ok {})
  match d.broken with
  | some why => throw (.malformed why)
  | none => if d.more then throw .moreDocuments else return config

end GitSteward
