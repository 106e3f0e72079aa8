import LdapService.Config.SocketAddress
import LdapService.Text.Blank
import LdapService.Text.Decimal

/-!
Settings of a server. They are read from named values; one that is missing, or
that does not read as what it should be, has its default. What was read is then
checked as a whole, and the first fault found is the one reported.
-/

namespace LdapService

structure ServerOptions where
  nodelay : Bool := true
  backlog : Nat := 128
  maxMessageSize : Nat := 1048576
  /-- Seconds. -/
  handshakeTimeout : Nat := 10
  deriving DecidableEq, Repr

structure Config where
  ldapHost : String := "0.0.0.0"
  ldapPort : Nat := 1389
  options : ServerOptions := {}
  baseDn : String := "dc=example,dc=com"
  directoryFile : Option String := none
  cacheSize : Nat := 100
  apiPort : Nat := 8080
  certificateFile : Option String := none
  keyFile : Option String := none
  enableTls : Bool := false
  deriving DecidableEq, Repr

namespace Config

def word16 : Nat := 0x10000

def word32 : Nat := 0x100000000

def word64 : Nat := 0x10000000000000000

def number (bound : Nat) (value : Option String) (default : Nat) : Nat :=
  (value.bind fun text => Text.decimal? bound (Text.trim text.toList)).getD default

def boolean? (text : List Char) : Option Bool :=
  if text = "true".toList then some true
  else if text = "false".toList then some false
  else none

def boolean (value : Option String) (default : Bool) : Bool :=
  (value.bind fun text => boolean? (Text.trim text.toList)).getD default

def read (lookup : String → Option String) : Config :=
  let base : Config := {}
  { ldapHost := (lookup "LDAP_HOST").getD base.ldapHost
    ldapPort := number word16 (lookup "LDAP_PORT") base.ldapPort
    options := {
      nodelay := boolean (lookup "LDAP_NODELAY") base.options.nodelay
      backlog := number word32 (lookup "LDAP_BACKLOG") base.options.backlog
      maxMessageSize :=
        number word64 (lookup "LDAP_MAX_MESSAGE_SIZE") base.options.maxMessageSize
      handshakeTimeout :=
        number word64 (lookup "LDAP_TLS_HANDSHAKE_TIMEOUT") base.options.handshakeTimeout }
    baseDn := (lookup "LDAP_BASE_DN").getD base.baseDn
    directoryFile := lookup "DIRECTORY_FILE"
    cacheSize := number word64 (lookup "CREDENTIAL_CACHE_SIZE") base.cacheSize
    apiPort := number word16 (lookup "API_PORT") base.apiPort
    certificateFile := lookup "TLS_CERT_PATH"
    keyFile := lookup "TLS_KEY_PATH"
    enableTls := boolean (lookup "ENABLE_TLS") base.enableTls }

def ldapAddress (config : Config) : String := s!"{config.ldapHost}:{config.ldapPort}"

def apiAddress (config : Config) : String := s!"0.0.0.0:{config.apiPort}"

inductive Fault where
  | zeroApiPort
  | zeroLdapPort
  | samePort
  | zeroBacklog
  | smallMessages (size : Nat)
  | zeroHandshakeTimeout
  | emptyBase
  | noDirectory (path : String)
  | certificateUnset
  | noCertificate (path : String)
  | keyUnset
  | noKey (path : String)
  | badHost (host : String)
  deriving DecidableEq, Repr

def Fault.message : Fault → String
  | zeroApiPort => "API_PORT cannot be 0"
  | zeroLdapPort => "LDAP_PORT cannot be 0"
  | samePort => "LDAP_PORT and API_PORT must differ"
  | zeroBacklog => "LDAP_BACKLOG cannot be 0"
  | smallMessages size => s!"LDAP_MAX_MESSAGE_SIZE must be at least 64 bytes, got {size}"
  | zeroHandshakeTimeout => "LDAP_TLS_HANDSHAKE_TIMEOUT cannot be 0"
  | emptyBase => "LDAP_BASE_DN cannot be empty"
  | noDirectory path => s!"Directory file not found: {path}"
  | certificateUnset => "ENABLE_TLS is true but TLS_CERT_PATH is not set"
  | noCertificate path => s!"TLS certificate file not found: {path}"
  | keyUnset => "ENABLE_TLS is true but TLS_KEY_PATH is not set"
  | noKey path => s!"TLS key file not found: {path}"
  | badHost host => s!"Invalid LDAP_HOST {host}: invalid socket address syntax"

def smallestMessageSize : Nat := 64

def require (exists? : String → Bool) (path : Option String) (unset : Fault)
    (missing : String → Fault) : Except Fault Unit :=
  match path with
  | none => throw unset
  | some path => unless exists? path do throw (missing path)

def validate (exists? : String → Bool) (config : Config) : Except Fault Unit := do
  let options := config.options
  if config.apiPort = 0 then throw .zeroApiPort
  if config.ldapPort = 0 then throw .zeroLdapPort
  if config.ldapPort = config.apiPort then throw .samePort
  if options.backlog = 0 then throw .zeroBacklog
  if options.maxMessageSize < smallestMessageSize then
    throw (.smallMessages options.maxMessageSize)
  if options.handshakeTimeout = 0 then throw .zeroHandshakeTimeout
  if Text.trim config.baseDn.toList = [] then throw .emptyBase
  if let some path := config.directoryFile then
    unless exists? path do throw (.noDirectory path)
  if config.enableTls then
    require exists? config.certificateFile .certificateUnset .noCertificate
    require exists? config.keyFile .keyUnset .noKey
  unless SocketAddress.isValid config.ldapAddress do throw (.badHost config.ldapHost)

end Config

end LdapService
