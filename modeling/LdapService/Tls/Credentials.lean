import LdapService.ServiceError
import LdapService.Tls.Certificate
import LdapService.Tls.Pem
import LdapService.Tls.PrivateKey

/-!
What a server shows and proves of itself on a secure channel: its chain of
certificates and the private key to the first of them.
-/

namespace LdapService.Tls

structure Credentials where
  chain : List Octets
  chain_ne_nil : chain ≠ []
  key : PrivateKey
  publicKey : Octets
  certified : Certificate.publicKey (chain.head chain_ne_nil) = .ok publicKey
  key_fits : key.publicInfo? = some publicKey

namespace Credentials

inductive Fault where
  | badKey
  | badCertificate (fault : Certificate.Fault)
  | otherKey
  deriving DecidableEq, Repr

def Fault.message : Fault → String
  | badKey => "unexpected error: failed to parse private key as RSA, ECDSA, or EdDSA"
  | badCertificate fault => s!"invalid peer certificate: {fault.message}"
  | otherKey => "keys may not be consistent: KeyMismatch"

def keyLabels : List (String × PrivateKey.Form) :=
  [("PRIVATE KEY", .wrapped), ("RSA PRIVATE KEY", .rsa), ("EC PRIVATE KEY", .elliptic)]

def readChain (file : Except IoError String) :
    Except ServiceError { chain : List Octets // chain ≠ [] } := do
  let text ← file.mapError fun error =>
    ServiceError.tls s!"Failed to open certificate file: {error.message}"
  let chain ← ((PemFile.ofText text).all "CERTIFICATE").mapError fun fault =>
    ServiceError.tls s!"Failed to parse certificates: {fault.message}"
  if h : chain = [] then throw (.tls "No certificates found in file") else return ⟨chain, h⟩

def readKey (file : Except IoError String) : Except ServiceError PrivateKey := do
  let text ← file.mapError fun error =>
    ServiceError.tls s!"Failed to open key file: {error.message}"
  let found ← ((PemFile.ofText text).first? (keyLabels.map Prod.fst)).mapError fun fault =>
    ServiceError.tls s!"Failed to parse private key: {fault.message}"
  match found.bind fun part => return ⟨← keyLabels.lookup part.label, part.content⟩ with
  | some key => return key
  | none => throw (.tls "No private keys found in file")

/-- The key is looked at first, then the certificate it should belong to. -/
def make (chain : List Octets) (chain_ne_nil : chain ≠ []) (key : PrivateKey) :
    Except Fault Credentials :=
  match key_fits : key.publicInfo?,
      certified : Certificate.publicKey (chain.head chain_ne_nil) with
  | none, _ => .error .badKey
  | some _, .error fault => .error (.badCertificate fault)
  | some publicKey, .ok found =>
      if h : found = publicKey then
        .ok { chain, chain_ne_nil, key, publicKey, certified := h ▸ certified, key_fits }
      else .error .otherKey

def load (certificates key : Except IoError String) : Except ServiceError Credentials := do
  let ⟨chain, chain_ne_nil⟩ ← readChain certificates
  let key ← readKey key
  (make chain chain_ne_nil key).mapError fun fault =>
    ServiceError.tls s!"Failed to build TLS config: {fault.message}"

end Credentials

end LdapService.Tls
