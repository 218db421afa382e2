import ParamSql.Execution.Cursor
import ParamSql.Execution.Session
import ParamSql.Proofs.Clause.Alignment
import ParamSql.Proofs.Clause.Direction
import ParamSql.Proofs.Clause.FirstFault
import ParamSql.Proofs.Clause.Listing
import ParamSql.Proofs.Clause.Meaning
import ParamSql.Proofs.Clause.Registration
import ParamSql.Proofs.Clause.Sequence
import ParamSql.Proofs.Clause.Terms
import ParamSql.Proofs.Statement.Tables
import ParamSql.Proofs.Execution.Disclosure
import ParamSql.Proofs.Execution.Drain
import ParamSql.Proofs.Execution.Named
import ParamSql.Proofs.Identifier.Snake
import ParamSql.Proofs.Row.Models
import ParamSql.Proofs.Statement.Batch
import ParamSql.Proofs.Schema.Projection
import ParamSql.Proofs.Statement.Instance
import ParamSql.Proofs.Statement.NormalForm
import ParamSql.Proofs.Statement.Verbatim
import ParamSql.Row
