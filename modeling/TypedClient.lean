import TypedClient.CommandLine.Run
import TypedClient.Main
import TypedClient.Proofs.Client.Faults
import TypedClient.Proofs.Client.Malformed
import TypedClient.Proofs.Client.Models
import TypedClient.Proofs.Client.Reordering
import TypedClient.Proofs.CommandLine.Status
import TypedClient.Proofs.Document.Proper
import TypedClient.Proofs.Generation.Failure
import TypedClient.Proofs.Generation.Overwriting
import TypedClient.Proofs.Method.Destructuring
import TypedClient.Proofs.Method.Literals
import TypedClient.Proofs.Name.Derivation
import TypedClient.Proofs.Name.Search
import TypedClient.Proofs.Operation.Accounting
import TypedClient.Proofs.Service.Members
import TypedClient.Proofs.Source.Imports
import TypedClient.Proofs.Source.Layout
import TypedClient.Proofs.TypeExpr.Indentation
import TypedClient.Proofs.TypeExpr.PropertyNames
import TypedClient.Proofs.Value.Parts
import TypedClient.Proofs.Levels
import TypedClient.Proofs.Value.Proper
import TypedClient.Proofs.Value.Text
