import ParamSql.Blocking.Session
import ParamSql.Proofs.Positions
import ParamSql.Raised
import ParamSql.Replay
import ParamSql.Waiting.Session
import ParamSql.Proofs.Templates
import ParamSql.Proofs.Numerals
import ParamSql.Proofs.Rewriting
import ParamSql.Proofs.Styles
import ParamSql.Proofs.Alignment
import ParamSql.Proofs.Shapes
import ParamSql.Proofs.Slots
import ParamSql.Proofs.Statements
import ParamSql.Proofs.Talk
import ParamSql.Proofs.Calls
import ParamSql.Proofs.Ledger
import ParamSql.Proofs.Steps
import ParamSql.Proofs.Lifecycle
import ParamSql.Proofs.Windows
import ParamSql.Proofs.LateCalls
import ParamSql.Proofs.Accounts
import ParamSql.Proofs.Twins
import ParamSql.Proofs.Failures
import ParamSql.Proofs.Crowds
import ParamSql.Proofs.Parity
import ParamSql.Proofs.Conditions
import ParamSql.Proofs.Executions
import ParamSql.Proofs.Finishing
import ParamSql.Proofs.Secrecy
import ParamSql.Proofs.Cells
import ParamSql.Proofs.PropertyCalls
import ParamSql.Proofs.Insertions
import ParamSql.Proofs.Clauses
import ParamSql.Proofs.Filters
import ParamSql.Proofs.Dangling
import ParamSql.Proofs.Verdicts
import ParamSql.Proofs.Leavings
import ParamSql.Proofs.Capacity
import ParamSql.Proofs.OutOfTurn
import ParamSql.Proofs.Assignments
import ParamSql.Proofs.Rebinding
import ParamSql.Proofs.ResultRows
import ParamSql.Proofs.CamelNames
import ParamSql.Proofs.Lookups
