import SqlScript.Text.Letter
import SqlScript.Text.Blank
import SqlScript.Scan.Offset
import SqlScript.Runner
import SqlScript.Database
import SqlScript.Report
import SqlScript.Config
import SqlScript.Input.Compression
import SqlScript.Input.Progress
import SqlScript.Files.Selection
import SqlScript.Main
import SqlScript.Proofs.LineScan
import SqlScript.Proofs.PhysicalLines
import SqlScript.Proofs.Stretch
import SqlScript.Proofs.StretchBuffer
import SqlScript.Proofs.WholeText
import SqlScript.Proofs.Content
import SqlScript.Proofs.LiteralText
import SqlScript.Proofs.EngineCalls
import SqlScript.Proofs.CopyTransaction
import SqlScript.Proofs.InsertText
import SqlScript.Proofs.CopyBatches
import SqlScript.Proofs.Renumbering
import SqlScript.Proofs.RawReads
import SqlScript.Proofs.StateMaps
import SqlScript.Proofs.RunTrace
import SqlScript.Proofs.RunAccount
import SqlScript.Proofs.PieceScan
import SqlScript.Proofs.SplitAgain
import SqlScript.Proofs.Concatenation
import SqlScript.Proofs.CopyRoundTrip
import SqlScript.Proofs.EarlyStop
import SqlScript.Proofs.EngineMaps
import SqlScript.Proofs.TransactionLedger
import SqlScript.Proofs.DatabaseTrace
import SqlScript.Proofs.RunEvents
import SqlScript.Proofs.FailedSection
import SqlScript.Proofs.LineEndings
import SqlScript.Proofs.ReadFailure
import SqlScript.Proofs.BlamedLine
import SqlScript.Proofs.ScriptTransaction
import SqlScript.Proofs.InsertStatement
import SqlScript.Proofs.LineNumbers
import SqlScript.Proofs.RepeatedRequests
import SqlScript.Proofs.ScannedText
import SqlScript.Proofs.LeadingComments
import SqlScript.Proofs.OctalEscapes
import SqlScript.Proofs.WholeWords
import SqlScript.Proofs.CopyLayout
import SqlScript.Proofs.QuotedNames
import SqlScript.Proofs.SpanParts
import SqlScript.Proofs.ReturningClause
import SqlScript.Proofs.CalendarDays
import SqlScript.Proofs.DateTexts
import SqlScript.Proofs.TimeUnits
import SqlScript.Proofs.ScriptBatch
import SqlScript.Proofs.TableLayout
import SqlScript.Proofs.JsonReader
import SqlScript.Proofs.ReportRecords
import SqlScript.Proofs.RunInvariants
import SqlScript.Proofs.WrittenOutput
import SqlScript.Proofs.ClosedOutput
import SqlScript.Proofs.RunTotals
import SqlScript.Proofs.ScriptRecords
import SqlScript.Proofs.ByteLexer
import SqlScript.Proofs.BufferHistory
