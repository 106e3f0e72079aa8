import LdapService.Text.Base64
import LdapService.Text.Inspected
import LdapService.Text.Search
import LdapService.Text.Utf8

/-!
Text files of labelled sections. A section opens with a line that names its
label, goes on with lines of base64 and closes with a line that names the label
again. Whatever stands outside sections is passed over, and so are sections
with labels that are not known. A file is good up to its first fault.
-/

namespace LdapService.Tls

inductive PemFault where
  | badOpening (line : String)
  | unclosed (label : String)
  | badContent (fault : Text.Base64.Fault)
  deriving DecidableEq, Repr

def PemFault.message : PemFault → String
  | badOpening line => s!"illegal section start: {Text.inspected line}"
  | unclosed label => s!"section end {Text.inspected label} missing"
  | badContent fault => fault.message

structure PemSection where
  label : String
  content : Octets
  deriving DecidableEq, Repr

/-- What a file holds in front of its first fault. -/
structure PemFile where
  sections : List PemSection
  fault : Option PemFault
  deriving DecidableEq, Repr

namespace PemSection

def knownLabels : List String := [
  "CERTIFICATE", "PUBLIC KEY", "RSA PRIVATE KEY", "PRIVATE KEY", "EC PRIVATE KEY", "X509 CRL",
  "CERTIFICATE REQUEST", "ECHCONFIG"]

def dashes : List Char := List.replicate 5 '-'

def opening : List Char := dashes ++ "BEGIN ".toList

def closing (label : String) : List Char := dashes ++ "END ".toList ++ label.toList ++ dashes

def isLineEnd (c : Char) : Bool := c == '\n' || c == '\r'

def lines : List Char → List (List Char)
  | [] => []
  | c :: rest =>
      if isLineEnd c then [c] :: lines rest
      else
        match lines rest with
        | [] => [[c]]
        | line :: more => (c :: line) :: more

/-- The label in what follows the word of an opening line, up to the dashes
that end the line. Five of them are due, blanks among them do not count. -/
def label? (rest : List Char) : Option String :=
  let front := (rest.reverse.dropWhile fun c => c == '-' || c == ' ' || isLineEnd c).reverse
  let back := rest.drop front.length
  if back.count '-' = 5 then some (String.ofList (front ++ back.takeWhile (· != '-'))) else none

structure Draft where
  label : String
  encoded : List Char

end PemSection

namespace PemFile

open PemSection

def add (part : PemSection) (file : PemFile) : PemFile :=
  { file with sections := part :: file.sections }

def stop (fault : PemFault) : PemFile := ⟨[], some fault⟩

/-- An opening line inside a section changes the label and keeps the lines
that are already there. -/
def ofLines (draft : Option Draft) : List (List Char) → PemFile
  | [] => ⟨[], draft.map fun draft => .unclosed draft.label⟩
  | line :: rest =>
      match Text.afterFront? opening line, draft with
      | some tail, _ =>
          match label? tail with
          | none => stop (.badOpening (String.ofList line))
          | some label => ofLines (some ⟨label, (draft.map Draft.encoded).getD []⟩) rest
      | none, none => ofLines none rest
      | none, some draft =>
          if (closing draft.label).isPrefixOf line then
            if draft.label ∈ knownLabels then
              match Text.Base64.decode (Text.utf8 (String.ofList draft.encoded)) with
              | .ok content => (ofLines none rest).add ⟨draft.label, content⟩
              | .error fault => stop (.badContent fault)
            else ofLines none rest
          else ofLines (some { draft with encoded := draft.encoded ++ line }) rest

def ofText (text : String) : PemFile :=
  ofLines none (lines text.toList)

def all (label : String) (file : PemFile) : Except PemFault (List Octets) :=
  match file.fault with
  | some fault => .error fault
  | none => .ok ((file.sections.filter fun part => part.label == label).map PemSection.content)

/-- The first section with one of the labels. A fault behind it does no harm. -/
def first? (labels : List String) (file : PemFile) : Except PemFault (Option PemSection) :=
  match file.sections.find? fun part => labels.contains part.label, file.fault with
  | some part, _ => .ok (some part)
  | none, some fault => .error fault
  | none, none => .ok none

end PemFile

end LdapService.Tls
