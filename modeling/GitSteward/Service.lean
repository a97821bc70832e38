-- The services that a client may ask for. The set is closed: no other name is served.

namespace GitSteward

inductive Service where
  | uploadPack
  | uploadArchive
  | receivePack
  | lfsTransfer
  | lfsAuthenticate
deriving Repr, DecidableEq, Inhabited

namespace Service

/-- All services. -/
def all : List Service := [uploadPack, uploadArchive, receivePack, lfsTransfer, lfsAuthenticate]

/-- The name of a service without its family. For a git service it is the subcommand. -/
def shortName : Service → String
  | uploadPack => "upload-pack"
  | uploadArchive => "upload-archive"
  | receivePack => "receive-pack"
  | lfsTransfer => "lfs-transfer"
  | lfsAuthenticate => "lfs-authenticate"

/-- The name by which a client asks for a service. -/
def wireName (s : Service) : String := "git-" ++ s.shortName

/-- Whether a service is a subcommand of git. The others have programs of their own. -/
def isProcessBacked : Service → Bool
  | uploadPack | uploadArchive | receivePack => true
  | lfsTransfer | lfsAuthenticate => false

/-- The name of a service in the words of its type. -/
def typeName : Service → String
  | uploadPack => "UploadPack"
  | uploadArchive => "UploadArchive"
  | receivePack => "ReceivePack"
  | lfsTransfer => "LfsTransfer"
  | lfsAuthenticate => "LfsAuthenticate"

/-- The service that a client asks for. -/
def ofWireName? (name : String) : Option Service := all.find? (·.wireName = name)

theorem ofWireName?_wireName (s : Service) : ofWireName? s.wireName = some s := by
  cases s <;> decide +kernel

theorem wireName_of_ofWireName? {name : String} {s : Service}
    (h : ofWireName? name = some s) : s.wireName = name := by
  simpa using List.find?_some h

end Service

end GitSteward
