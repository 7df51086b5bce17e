import ParamQuery.Expr.Case
import ParamQuery.Json.Reader
import ParamQuery.Prepared
import ParamQuery.Proofs.Case.Defaults
import ParamQuery.Proofs.Erasure
import ParamQuery.Proofs.Flattening
import ParamQuery.Proofs.Grouping.Exact
import ParamQuery.Proofs.Inline.AnyName
import ParamQuery.Proofs.Log.Compilation
import ParamQuery.Proofs.Log.Rebinding
import ParamQuery.Proofs.Naming.FirstOccurrence
import ParamQuery.Proofs.Naming.Requests
import ParamQuery.Proofs.Naming.Rounds
import ParamQuery.Proofs.Naming.Substitution
import ParamQuery.Proofs.Prepared.Apart
import ParamQuery.Proofs.Prepared.LastWrite
import ParamQuery.Proofs.Prepared.Reapply
import ParamQuery.Proofs.Prepared.Runs
import ParamQuery.Proofs.Query.Aliases
import ParamQuery.Proofs.Query.Clauses
import ParamQuery.Proofs.Query.Ordering
import ParamQuery.Proofs.Settings.Environment
import ParamQuery.Proofs.Settings.Layers
import ParamQuery.Proofs.Text.Cuts
import ParamQuery.Proofs.Text.Literals
import ParamQuery.Query
import ParamQuery.Settings.Load
