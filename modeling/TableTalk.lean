import TableTalk.Api
import TableTalk.Main
import TableTalk.Settings.LogLevel
import TableTalk.Proofs.Cascade.ClosedForm
import TableTalk.Proofs.Answer.ShownAggregate
import TableTalk.Proofs.Session.Consistency
import TableTalk.Proofs.Session.Effects
import TableTalk.Proofs.History.Export
import TableTalk.Proofs.Ingest.ExportedTable
import TableTalk.Proofs.Ingest.JsonRows
import TableTalk.Proofs.Api.Atomicity
import TableTalk.Proofs.Classification
import TableTalk.Proofs.Ingest.WellFormed
import TableTalk.Proofs.Api.LatestAnswer
import TableTalk.Proofs.Table.Written
import TableTalk.Proofs.Cascade.Written
import TableTalk.Proofs.Answer.Written
import TableTalk.Proofs.Number.Binary
import TableTalk.Proofs.Number.Sum
import TableTalk.Proofs.Answer.Reasonable
import TableTalk.Proofs.Answer.Groups
import TableTalk.Proofs.Answer.CarriedOut
import TableTalk.Proofs.Ingest.MergedColumns
import TableTalk.Proofs.Ingest.ColumnFile
import TableTalk.Proofs.Cascade.GroupNames
import TableTalk.Proofs.Cascade.TotalOverAverage
import TableTalk.Proofs.Calendar.DayText
import TableTalk.Proofs.Calendar.DayTokens
import TableTalk.Proofs.Classification.WrittenDays
import TableTalk.Proofs.Number.Magnitude
import TableTalk.Proofs.Number.Rounding
import TableTalk.Proofs.Number.NearestFloat
import TableTalk.Proofs.Number.Grammar
import TableTalk.Proofs.Cell.Shown
import TableTalk.Proofs.Chart.Drawing
import TableTalk.Proofs.Chart.Agreement
import TableTalk.Proofs.Answer.GroupFigure
import TableTalk.Proofs.Number.Shortest
import TableTalk.Proofs.Number.WholeText
import TableTalk.Proofs.Csv.Records
import TableTalk.Proofs.Export.Integers
import TableTalk.Proofs.Answer.SameQuestion
import TableTalk.Proofs.Ingest.Rectangular
import TableTalk.Proofs.Ingest.SingleObject
import TableTalk.Proofs.Answer.ShownLimit
import TableTalk.Proofs.Answer.Outcome
import TableTalk.Proofs.Cascade.IntegerTotal
import TableTalk.Proofs.Question.WellFormed
import TableTalk.Proofs.History.Clock
import TableTalk.Proofs.Session.Numbering
import TableTalk.Proofs.Session.Rerun
import TableTalk.Proofs.Number.Comparison
import TableTalk.Proofs.Settings.Fields
import TableTalk.Proofs.Cell.WholeNumbers
