import LdapService.Config.Basic
import LdapService.Directory.Sample
import LdapService.Directory.Shared
import LdapService.Handler.Directory
import LdapService.Session.Service
import LdapService.Tls.Credentials

/-!
The program: one session of a directory service over standard input and
output. Settings come from the environment. Whatever accepts the connection,
and secures it, stands in front.
-/

namespace LdapService.Main

def settings : List String := [
  "LDAP_HOST", "LDAP_PORT", "LDAP_BACKLOG", "LDAP_NODELAY", "LDAP_MAX_MESSAGE_SIZE",
  "LDAP_TLS_HANDSHAKE_TIMEOUT", "LDAP_BASE_DN", "DIRECTORY_FILE", "CREDENTIAL_CACHE_SIZE",
  "API_PORT", "TLS_CERT_PATH", "TLS_KEY_PATH", "ENABLE_TLS"]

def readConfig : IO Config := do
  let values ← settings.mapM fun name => do return (name, ← IO.getEnv name)
  return Config.read fun name => (values.lookup name).join

def readFile (path : String) : IO (Except IoError String) := do
  match ← (IO.FS.readFile path).toBaseIO with
  | .ok text => return .ok text
  | .error (.noFileOrDirectory ..) => return .error .noSuchFile
  | .error error => return .error ⟨.other, toString error⟩

def canOpen (path : String) : IO Bool := do
  match ← (IO.FS.Handle.mk path .read).toBaseIO with
  | .ok _ => return true
  | .error _ => return false

def require {ε α : Type} (message : ε → String) (outcome : Except ε α) : IO α :=
  match outcome with
  | .ok value => pure value
  | .error error => throw (IO.userError (message error))

def checkConfig (config : Config) : IO Unit := do
  let paths := [config.directoryFile, config.certificateFile, config.keyFile].filterMap id
  let found ← paths.filterM canOpen
  require Config.Fault.message (config.validate found.contains)

def checkCredentials (config : Config) : IO Unit := do
  match config.certificateFile, config.keyFile with
  | some certificate, some key =>
      discard (require ServiceError.message
        (Tls.Credentials.load (← readFile certificate) (← readFile key)))
  | _, _ => pure ()

def readDirectory (config : Config) : IO Directory := do
  let directory ← match config.directoryFile with
    | some path => do pure (Directory.ofFile path (← readFile path))
    | none => pure (Directory.sample config.baseDn)
  require ServiceError.message directory

def number : Nat := 1

def chunk : USize := 8192

def writeFrames (output : IO.FS.Stream) (frames : List Octets) : IO Bool := do
  match ← (do
      for frame in frames do
        output.write ⟨frame.toArray⟩
        output.flush : IO Unit).toBaseIO with
  | .ok () => return true
  | .error _ => return false

partial def serve (input output : IO.FS.Stream) (service : Service Shared Identity) :
    IO (Except ServiceError Unit) := do
  let start ← IO.monoMsNow
  let service := service.settle number
  match service.session? number with
  | none => return .ok ()
  | some session =>
      let (frames, connection) := session.connection.takeWritten
      let service := service.put number { session with connection }
      let heard ← writeFrames output frames
      match session.phase with
      | .ended result => return result
      | _ =>
          let event : Service.Event ←
            if heard then do
              let octets := (← input.read chunk).toList
              pure (if octets.isEmpty then .hungUp number else .received number octets)
            else pure (.hungUp number)
          serve input output (service.run [.elapsed ((← IO.monoMsNow) - start), event])

end LdapService.Main

open LdapService in
def main : IO Unit := do
  let config ← Main.readConfig
  Main.checkConfig config
  if config.enableTls then Main.checkCredentials config
  let directory ← Main.readDirectory config
  let service : Service Shared Identity := {
    handler := (DirectoryService.ofBase config.baseDn true).handler
    environment := Shared.environment
    limit := config.options.maxMessageSize
    fresh := .anonymous
    outside := { directory, cache := some (.empty config.cacheSize) } }
  let result ← Main.serve (← IO.getStdin) (← IO.getStdout) (service.connect Main.number)
  Main.require ServiceError.message result
