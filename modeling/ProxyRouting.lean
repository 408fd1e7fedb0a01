import ProxyRouting.Compile
import ProxyRouting.Store
import ProxyRouting.Validation.Profile
import ProxyRouting.Proofs.Renumbering
import ProxyRouting.Proofs.Pattern.Glob
import ProxyRouting.Proofs.Pattern.Network
import ProxyRouting.Proofs.Script.Literal
import ProxyRouting.Proofs.Script.Query
import ProxyRouting.Proofs.Pattern.Meaning
import ProxyRouting.Proofs.Script.Embedding
import ProxyRouting.Proofs.Routes
import ProxyRouting.Proofs.Parity
import ProxyRouting.Proofs.Analysis.Calls
import ProxyRouting.Proofs.Analysis.Inert
import ProxyRouting.Proofs.Acceptance
import ProxyRouting.Proofs.Script.Extraction
import ProxyRouting.Proofs.Script.Capture
import ProxyRouting.Proofs.Script.Nested
import ProxyRouting.Proofs.Dependence
import ProxyRouting.Proofs.Script.Table
import ProxyRouting.Proofs.Entry
import ProxyRouting.Proofs.Validation.Host
import ProxyRouting.Proofs.Validation.Server
import ProxyRouting.Proofs.Validation.RuleSet
import ProxyRouting.Proofs.Validation.Compile
import ProxyRouting.Proofs.Ties
import ProxyRouting.Proofs.Chain
import ProxyRouting.Proofs.Script.Braces
import ProxyRouting.Proofs.Script.Balance
import ProxyRouting.Proofs.Analysis.Hidden
import ProxyRouting.Proofs.Validation.Profile
import ProxyRouting.Proofs.Delegation
import ProxyRouting.Proofs.Stored
import ProxyRouting.Proofs.Removal
import ProxyRouting.Proofs.Journal
import ProxyRouting.Proofs.Validation.Log
import ProxyRouting.Proofs.Work
import ProxyRouting.Proofs.Analysis.Consultation
import ProxyRouting.Proofs.Analysis.Phrase
import ProxyRouting.Proofs.Validation.Danger
import ProxyRouting.Proofs.Pattern.Refusal
import ProxyRouting.Proofs.Pattern.Handling
import ProxyRouting.Proofs.Validation.Answered
import ProxyRouting.Proofs.Doc.Scalar
import ProxyRouting.Proofs.Doc.Written
import ProxyRouting.Proofs.Settings
import ProxyRouting.Proofs.Pattern.Relation
import ProxyRouting.Proofs.Script.Title
import ProxyRouting.Proofs.Script.Leading
import ProxyRouting.Proofs.Script.Reembedding
import ProxyRouting.Proofs.Pattern.Mask
import ProxyRouting.Proofs.Pattern.Membership
import ProxyRouting.Proofs.Pattern.Leniency
import ProxyRouting.Proofs.Script.Heading
import ProxyRouting.Proofs.Script.Body
import ProxyRouting.Proofs.Pattern.Quoting
import ProxyRouting.Proofs.Precedence
import ProxyRouting.Proofs.Analysis.Edits
import ProxyRouting.Proofs.Analysis.Lexeme
import ProxyRouting.Proofs.Analysis.Grammar
import ProxyRouting.Proofs.Analysis.Turns
import ProxyRouting.Proofs.Script.Parameters
import ProxyRouting.Proofs.Analysis.Places
import ProxyRouting.Proofs.Entry.Announced
import ProxyRouting.Proofs.Url.Host
import ProxyRouting.Proofs.Pattern.HostName
import ProxyRouting.Proofs.Validation.HostForms
import ProxyRouting.Proofs.Url.Naming
import ProxyRouting.Proofs.Url.Parts
import ProxyRouting.Proofs.Analysis.Typos
