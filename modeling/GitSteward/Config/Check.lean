-- A configuration is accepted when programs are named, some error output is kept, and all
-- names of variables are ones that an environment can hold.
import GitSteward.Config.Decode

namespace GitSteward

/-- Why a configuration is refused. -/
inductive ConfigError where
  | undecodable (why : DecodeError)
  | emptyProgram
  | zeroCaptureLimit
  | emptyLfsProgram
  | invalidKey (key : String)
  /-- the file cannot be read, for the reason that is told -/
  | unreadableFile (path reason : String)
  /-- the file is read, but what it holds is refused -/
  | inFile (path : String) (why : ConfigError)
deriving Inhabited

/-- Whether a text can be the name of a variable. -/
def isVariableName (name : String) : Bool := !name.isEmpty && !name.contains '='

/-- What an accepted configuration keeps, and what is told first when it does not. -/
def Config.check (c : Config) : Except ConfigError Unit := do
  if c.git.program.isEmpty then throw .emptyProgram
  if c.git.captureLimit = 0 then throw .zeroCaptureLimit
  if c.lfs.transferProgram.isEmpty || c.lfs.authenticateProgram.isEmpty then
    throw .emptyLfsProgram
  match c.git.env.names.find? (!isVariableName ·) with
  | some key => throw (.invalidKey key)
  | none => return ()

/-- The configuration that a text holds, if it is accepted. -/
def Config.ofText (text : String) : Except ConfigError Config := do
  let config ← (Config.ofDocument (.ofText text)).mapError .undecodable
  config.check
  return config

/-- The messages of an error, from the outermost to its cause. -/
def ConfigError.messages : ConfigError → List String
  | .undecodable why => ["invalid config YAML", why.message]
  | .emptyProgram => ["git.program must not be empty"]
  | .zeroCaptureLimit => ["git.stderr_capture_limit must be greater than zero"]
  | .emptyLfsProgram => ["lfs programs must not be empty"]
  | .invalidKey key => ["invalid environment key in git.env: " ++ Text.quoted key]
  | .unreadableFile path reason => ["failed to read config file: " ++ path, reason]
  | .inFile path why => ("failed to load config file: " ++ path) :: why.messages

end GitSteward
