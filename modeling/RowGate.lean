import RowGate.Cli.Program
import RowGate.Main
import RowGate.Proofs.Query.Composition
import RowGate.Proofs.Query.Cuts
import RowGate.Proofs.Query.FilterForms
import RowGate.Proofs.Query.PageWalk
import RowGate.Proofs.Query.ParseErrors
import RowGate.Proofs.Query.WellTyped
import RowGate.Proofs.Session.Abandonment
import RowGate.Proofs.Session.Discretion
import RowGate.Proofs.Session.Masking
import RowGate.Proofs.Session.Paging
import RowGate.Proofs.Session.Play
import RowGate.Proofs.Session.Privilege
import RowGate.Proofs.Session.Registry
import RowGate.Proofs.Sql.CastType
import RowGate.Proofs.Sql.Grouping
import RowGate.Proofs.Sql.HiddenNames
import RowGate.Proofs.Sql.ImplicitNames
import RowGate.Proofs.Sql.Metadata
import RowGate.Proofs.Sql.Mutation
import RowGate.Proofs.Sql.NumericComparison
import RowGate.Proofs.Sql.OrderNames
import RowGate.Proofs.Sql.Parts
import RowGate.Proofs.Sql.Payload
import RowGate.Proofs.Sql.Positions
import RowGate.Proofs.Sql.Refusal
import RowGate.Proofs.Sql.RowCount
import RowGate.Proofs.Sql.SelectText
import RowGate.Proofs.Sql.VectorText
import RowGate.Proofs.Sql.WrittenColumns
import RowGate.Schema.Document
import RowGate.Session.Recovery
import RowGate.Sql.Compiler
