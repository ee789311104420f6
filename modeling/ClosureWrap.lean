import ClosureWrap.Main
import ClosureWrap.Service.Canned
import ClosureWrap.Proofs.Lowering.Numbering
import ClosureWrap.Proofs.Lowering.Projection
import ClosureWrap.Proofs.Lowering.Nesting
import ClosureWrap.Proofs.Lowering.Slices
import ClosureWrap.Proofs.Refactor.Closure
import ClosureWrap.Proofs.Workspace.Session
import ClosureWrap.Proofs.Refactor.Wrap
import ClosureWrap.Proofs.Workspace.Token
import ClosureWrap.Proofs.Refactor.Contract
import ClosureWrap.Proofs.Refactor.Capture
import ClosureWrap.Proofs.Refactor.Refusal
import ClosureWrap.Proofs.Service.Agreement
import ClosureWrap.Proofs.Refactor.Parameters
import ClosureWrap.Proofs.Service.Decorate
import ClosureWrap.Proofs.Typing.Provenance
import ClosureWrap.Proofs.Binding.Shadowing
import ClosureWrap.Proofs.Workspace.References
import ClosureWrap.Proofs.Lowering.Origin
import ClosureWrap.Proofs.Workspace.Members
import ClosureWrap.Proofs.Refactor.Reading
import ClosureWrap.Proofs.Binding.Renaming
import ClosureWrap.Proofs.Typing.Renaming
import ClosureWrap.Proofs.Text.Order
import ClosureWrap.Proofs.Workspace.Isolation
import ClosureWrap.Proofs.Text.Boundary
import ClosureWrap.Proofs.CommandLine.Faults
import ClosureWrap.Proofs.Binding.Innermost
import ClosureWrap.Proofs.CommandLine.Modes
import ClosureWrap.Proofs.Typing.Budget
import ClosureWrap.Proofs.Typing.Chains
import ClosureWrap.Proofs.Refactor.Overloads
import ClosureWrap.Proofs.Refactor.Replacement
import ClosureWrap.Proofs.Tree.Descent
import ClosureWrap.Proofs.Tree.Arrivals
import ClosureWrap.Proofs.Text.Numerals
import ClosureWrap.Proofs.Text.Lines
import ClosureWrap.Proofs.Locus
import ClosureWrap.Proofs.Refactor.ParameterNames
