-- Loading a configuration from a file of the machine.
import GitSteward.Config.Check
import GitSteward.Host.Files
import GitSteward.Launch

namespace GitSteward.Host

/-- What a file holds for one who has some input at hand. -/
def readContent (fs : Files) (here : Path) (input : Bytes) (path : String) :
    Except PathError Bytes := do
  match ← fs.find here path with
  | (_, .device (.descriptor 0)) => return input
  | (_, .device .terminal) => throw .noDevice
  | _ => fs.read here path

/-- The text of a file, or why there is none. -/
def readText (fs : Files) (here : Path) (input : Bytes) (path : String) :
    Except String String := do
  if hasNul path then throw "file name contained an unexpected NUL byte"
  let content ← (readContent fs here input path).mapError fun e => e.error.message
  match Text.text? content with
  | some text => return text
  | none => throw "stream did not contain valid UTF-8"

/-- Whether a path leads to the input of the one who opens it. -/
def isInput (fs : Files) (here : Path) (path : String) : Bool :=
  match fs.find here path with
  | .ok (_, .device (.descriptor 0)) => true
  | _ => false

/-- The configuration that a file holds. The file may be the input of the one who loads it. -/
def loadConfig (fs : Files) (here : Path) (input : Bytes) (path : String) :
    Except ConfigError Config := do
  let text ← (readText fs here input path).mapError (.unreadableFile path)
  (Config.ofText text).mapError (.inFile path)

end GitSteward.Host
