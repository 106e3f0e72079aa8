import LdapService.Config.Basic
import LdapService.Directory.Sample
import LdapService.Directory.Shared
import LdapService.Handler.Directory
import LdapService.Http.Basic
import LdapService.Main
import LdapService.Proofs.Program.Likeness
import LdapService.Session.Service
import LdapService.Tls.Credentials
import LdapService.Proofs.Directory.Passwords
import LdapService.Proofs.Handler.BoundIdentity
import LdapService.Proofs.Handler.Authorization
import LdapService.Proofs.Session.Events
import LdapService.Proofs.Session.Upholds
import LdapService.Proofs.Session.ServiceUpholds
import LdapService.Proofs.Session.BoundNames
import LdapService.Proofs.Session.Alike
import LdapService.Proofs.Session.Alone
import LdapService.Proofs.Session.CacheTransparency
import LdapService.Proofs.Session.PasswordSecrecy
import LdapService.Proofs.Handler.Trouble
import LdapService.Proofs.Text.LowerCase
import LdapService.Proofs.Text.Trim
import LdapService.Proofs.Dn.NormalForm
import LdapService.Proofs.Directory.Agreement
import LdapService.Proofs.Session.Serving
import LdapService.Proofs.Session.Confinement
import LdapService.Proofs.Ber.Elements
import LdapService.Proofs.Ber.Integers
import LdapService.Proofs.Ber.Readers
import LdapService.Proofs.Message.Framing
import LdapService.Proofs.Message.Boundary
import LdapService.Proofs.Text.OctetOrder
import LdapService.Proofs.Message.Answers
import LdapService.Proofs.Message.CanonicalForm
import LdapService.Proofs.Message.FilterRoundTrip
import LdapService.Proofs.Message.RequestRoundTrip
import LdapService.Proofs.Message.RoundTrip
import LdapService.Proofs.Message.Accepted
import LdapService.Proofs.Program.Restraint
import LdapService.Proofs.Session.Blocks
import LdapService.Proofs.Session.InOrder
import LdapService.Proofs.Session.Pace
import LdapService.Proofs.Session.Chunking
import LdapService.Proofs.Filter.Meaning
import LdapService.Proofs.Session.Unanswered
import LdapService.Proofs.Session.Silence
import LdapService.Proofs.Session.Discretion
import LdapService.Proofs.Session.Accounting
import LdapService.Proofs.Session.Shutdown
import LdapService.Proofs.Matching.Pieces
import LdapService.Proofs.Session.ScopeResults
import LdapService.Proofs.Dn.Containment
import LdapService.Proofs.Text.AsciiCase
import LdapService.Proofs.Dn.Spelling
import LdapService.Proofs.Handler.Spellings
import LdapService.Proofs.Directory.Records
import LdapService.Proofs.Directory.CredentialQueue
import LdapService.Proofs.Filter.NegationNormal
import LdapService.Proofs.Filter.Denotation
import LdapService.Proofs.Session.Feed
import LdapService.Proofs.Session.ClientLimits
import LdapService.Proofs.Session.Dispatch
import LdapService.Proofs.Session.Passage
import LdapService.Proofs.Attributes.Lookup
import LdapService.Proofs.Filter.LetterCase
import LdapService.Proofs.Message.Growth
import LdapService.Proofs.Ber.Contents
import LdapService.Proofs.Ber.Outcomes
import LdapService.Proofs.Message.Envelopes
import LdapService.Proofs.Message.Controls
import LdapService.Proofs.Message.Places
import LdapService.Proofs.Message.InvalidText
import LdapService.Proofs.Message.Exchanges
import LdapService.Proofs.Message.Substrings
import LdapService.Proofs.Message.Nesting
import LdapService.Proofs.Matching.Registration
import LdapService.Proofs.Message.Additions
import LdapService.Proofs.Ber.TwosComplement
import LdapService.Proofs.Ber.Calls
import LdapService.Proofs.Session.ReadFailures
import LdapService.Proofs.Message.Rounds
