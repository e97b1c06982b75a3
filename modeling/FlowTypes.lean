import FlowTypes.Text.Blank
import FlowTypes.Text.Lines
import FlowTypes.Text.Numeral
import FlowTypes.Key
import FlowTypes.Kind
import FlowTypes.IndexSet
import FlowTypes.TypeSet
import FlowTypes.Value
import FlowTypes.Builtin
import FlowTypes.CallSite
import FlowTypes.Arith
import FlowTypes.Stack
import FlowTypes.Channel
import FlowTypes.InferError
import FlowTypes.Object
import FlowTypes.Script
import FlowTypes.Worklist
import FlowTypes.Compartment
import FlowTypes.Compartment.Instance
import FlowTypes.Compartment.Query
import FlowTypes.Compartment.Observation
import FlowTypes.Compartment.Slots
import FlowTypes.Compartment.Sites
import FlowTypes.Compartment.Report
import FlowTypes.Request
import FlowTypes.Host
import FlowTypes.Compartment.Delivery
import FlowTypes.Solver
import FlowTypes.Trace.Literal
import FlowTypes.Trace.Command
import FlowTypes.Trace.Reader
import FlowTypes.Trace.Printer
import FlowTypes.Trace.Replay
import FlowTypes.Trace.Run
import FlowTypes.Diagnostic
import FlowTypes.CommandLine
import FlowTypes.Main
import FlowTypes.Proofs.Arithmetic
import FlowTypes.Proofs.Arrays
import FlowTypes.Proofs.Builtins
import FlowTypes.Proofs.Checked.Runs
import FlowTypes.Proofs.Confluence
import FlowTypes.Proofs.Declarations
import FlowTypes.Proofs.Demotion
import FlowTypes.Proofs.Forced
import FlowTypes.Proofs.Frozen
import FlowTypes.Proofs.FrozenKinds
import FlowTypes.Proofs.Heirs
import FlowTypes.Proofs.Idleness
import FlowTypes.Proofs.Invocations
import FlowTypes.Proofs.Lineage
import FlowTypes.Proofs.Lookups
import FlowTypes.Proofs.Network
import FlowTypes.Proofs.Purposes
import FlowTypes.Proofs.Recompiles
import FlowTypes.Proofs.Refusals
import FlowTypes.Proofs.Rendering
import FlowTypes.Proofs.Scripts
import FlowTypes.Proofs.Sets
import FlowTypes.Proofs.Spellings
import FlowTypes.Proofs.StackGroups
