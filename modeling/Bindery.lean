import Bindery.Command.World
import Bindery.Conformance
import Bindery.Main
import Bindery.Wire.Buffer
import Bindery.Wire.Conversation
import Bindery.Proofs.Check
import Bindery.Proofs.Plan
import Bindery.Proofs.Delivery
import Bindery.Proofs.Conversation
import Bindery.Proofs.Writing
import Bindery.Proofs.Canonical
import Bindery.Proofs.Prefix
import Bindery.Proofs.Dispatch
import Bindery.Proofs.Lines
import Bindery.Proofs.Scope
import Bindery.Proofs.SnakeCase
import Bindery.Proofs.Outline
import Bindery.Proofs.RustOutline
import Bindery.Proofs.Generation
import Bindery.Proofs.RustNames
import Bindery.Proofs.CppNames
import Bindery.Proofs.CppOutline
import Bindery.Proofs.Realisation
import Bindery.Proofs.RustAcceptance
import Bindery.Proofs.RustHygiene
import Bindery.Proofs.Extension
import Bindery.Proofs.CppAcceptance
import Bindery.Proofs.CppHygiene
import Bindery.Proofs.Violations
import Bindery.Proofs.Grammar
import Bindery.Proofs.Loading
import Bindery.Proofs.Places
import Bindery.Proofs.Running
import Bindery.Proofs.Artifacts
import Bindery.Proofs.TypeGrammar
import Bindery.Proofs.Precedence
import Bindery.Proofs.Oversized
import Bindery.Proofs.Templates
import Bindery.Proofs.Sending
import Bindery.Proofs.Nesting
import Bindery.Proofs.Pieces
import Bindery.Proofs.WellNested
import Bindery.Proofs.OutputPaths
import Bindery.Proofs.Banner
import Bindery.Proofs.CursorSafety
import Bindery.Proofs.FullSinks
import Bindery.Proofs.Guards
import Bindery.Proofs.Passages
import Bindery.Proofs.Spellings
import Bindery.Proofs.ClaimHistory
import Bindery.Proofs.Receiving
