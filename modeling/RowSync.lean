import RowSync.Database.Memory
import RowSync.Database.Scripted
import RowSync.Main
import RowSync.Proofs.Text.Splitting
import RowSync.Proofs.Text.PlainName
import RowSync.Proofs.Value.StoredForm
import RowSync.Proofs.Memory.Tables
import RowSync.Proofs.Memory.Statements
import RowSync.Proofs.Schema.Ordered
import RowSync.Proofs.Schema.Description
import RowSync.Proofs.Copying.TableCopy
import RowSync.Proofs.Copying.Plan
import RowSync.Proofs.Sync.Yields
import RowSync.Proofs.Sync.Loading
import RowSync.Proofs.Copying.Answers
import RowSync.Proofs.Copying.TableRun
import RowSync.Proofs.Copying.MigrationRun
import RowSync.Proofs.Copying.VerificationRun
import RowSync.Proofs.Copying.StoredRows
import RowSync.Proofs.Copying.Settled
import RowSync.Proofs.Copying.Strategies
import RowSync.Proofs.Copying.Rerun
import RowSync.Proofs.Copying.VerifiedMigration
import RowSync.Proofs.Sync.ConstraintBracket
import RowSync.Proofs.Text.LowerCase
import RowSync.Proofs.Memory.Frames
import RowSync.Proofs.Sync.Triple
import RowSync.Proofs.Sync.Refusal
import RowSync.Proofs.Copying.PlanText
import RowSync.Proofs.Copying.RefusedTable
import RowSync.Proofs.Schema.Readable
import RowSync.Proofs.Copying.ExactVerification
import RowSync.Proofs.Sync.PipelineSafety
import RowSync.Proofs.Text.Utf8
import RowSync.Proofs.Number.Integer
import RowSync.Proofs.Value.Uuid
import RowSync.Proofs.Value.IdentityTrip
import RowSync.Proofs.Copying.IdentityFilter
import RowSync.Proofs.Sync.RelatedRuns
import RowSync.Proofs.Sync.Transcript
import RowSync.Proofs.Sync.InsertAccounting
import RowSync.Proofs.Sync.InsertAnswers
import RowSync.Proofs.Sync.RunAccounting
import RowSync.Proofs.Memory.Growth
import RowSync.Proofs.Copying.Appending
import RowSync.Proofs.Memory.Lookup
import RowSync.Proofs.Copying.Independence
import RowSync.Proofs.Calendar.DayNumber
import RowSync.Proofs.Number.ExactDecimal
import RowSync.Proofs.Number.Numeric
import RowSync.Proofs.Value.ParameterTrip
import RowSync.Proofs.Number.Digits
import RowSync.Proofs.Calendar.Parts
import RowSync.Proofs.Value.WireDate
import RowSync.Proofs.Value.MysqlTrip
import RowSync.Proofs.Calendar.WrittenForm
import RowSync.Proofs.Value.Protocols
import RowSync.Proofs.Number.SpelledInteger
import RowSync.Proofs.Value.IntegerParameter
import RowSync.Proofs.Postgres.StatementCache
import RowSync.Proofs.Text.QuotedName
import RowSync.Proofs.Copying.StatementReading
import RowSync.Proofs.Copying.ExactValidation
import RowSync.Proofs.Postgres.Streaming
import RowSync.Proofs.Sync.ReadOnly
import RowSync.Proofs.Sync.Notifications
import RowSync.Proofs.Copying.ReportedRows
import RowSync.Proofs.Schema.OfRows
import RowSync.Proofs.Schema.Partition
import RowSync.Proofs.Mysql.KeyCollision
import RowSync.Proofs.Sync.SourceStatements
import RowSync.Proofs.Schema.TextVerdict
import RowSync.Proofs.Calendar.Timeline
import RowSync.Proofs.Value.TimeNormalization
import RowSync.Proofs.Value.IdentityText
import RowSync.Proofs.Command.Connections
import RowSync.Proofs.Sync.SentBatches
import RowSync.Proofs.Value.Equality
import RowSync.Proofs.Failure.Contexts
