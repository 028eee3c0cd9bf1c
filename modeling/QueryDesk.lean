import QueryDesk.Backend.Call
import QueryDesk.Backend.Failure
import QueryDesk.Backend.Sending
import QueryDesk.Calendar.Date
import QueryDesk.Calendar.Pattern
import QueryDesk.Calendar.Reading
import QueryDesk.Calendar.Rendering
import QueryDesk.Chart.Profile
import QueryDesk.Chart.Series
import QueryDesk.Chart.Suggestion
import QueryDesk.CommandLine.Arguments
import QueryDesk.CommandLine.Carrying
import QueryDesk.CommandLine.Invocation
import QueryDesk.Json.Basic
import QueryDesk.Json.Reading
import QueryDesk.Json.Record
import QueryDesk.Json.Token
import QueryDesk.Json.Written
import QueryDesk.Main
import QueryDesk.Number.Double
import QueryDesk.Number.NumberText
import QueryDesk.Number.Order
import QueryDesk.Number.Power
import QueryDesk.Number.Reading
import QueryDesk.Number.Rounding
import QueryDesk.Number.Shortest
import QueryDesk.Query.Aggregation
import QueryDesk.Query.Basic
import QueryDesk.Query.Choice
import QueryDesk.Query.Edit
import QueryDesk.Query.Executable
import QueryDesk.Query.Filter
import QueryDesk.Query.Saved
import QueryDesk.Query.TableId
import QueryDesk.Query.Wire
import QueryDesk.Report.Csv
import QueryDesk.Report.Grid
import QueryDesk.Report.Listing
import QueryDesk.Result.Basic
import QueryDesk.Result.Cell
import QueryDesk.Result.Display
import QueryDesk.Result.Pivot
import QueryDesk.Result.Wire
import QueryDesk.Schema.Basic
import QueryDesk.Schema.Category
import QueryDesk.Schema.Wire
import QueryDesk.Settings.Basic
import QueryDesk.Settings.Layers
import QueryDesk.Settings.Reading
import QueryDesk.Surroundings.Dialogue
import QueryDesk.Surroundings.File
import QueryDesk.Surroundings.Folder
import QueryDesk.Surroundings.Path
import QueryDesk.Surroundings.Rehearsal
import QueryDesk.Surroundings.Transport
import QueryDesk.Text.Blank
import QueryDesk.Text.DecimalDigit
import QueryDesk.Text.Letter
import QueryDesk.Text.Mark
import QueryDesk.Text.Ranges
import QueryDesk.Text.Reserved
import QueryDesk.Text.Scan
import QueryDesk.Text.Visible
import QueryDesk.Toml.Basic
import QueryDesk.Toml.Document
import QueryDesk.Toml.Layout
import QueryDesk.Toml.Quoted
import QueryDesk.Toml.Scalar
import QueryDesk.Toml.Table
import QueryDesk.Proofs.Query.TableId
import QueryDesk.Proofs.Query.Step
import QueryDesk.Proofs.Query.WellFormed
import QueryDesk.Proofs.Query.Numbering
import QueryDesk.Proofs.Query.Typing
import QueryDesk.Proofs.Result.Pivot
import QueryDesk.Proofs.Json.Numeral
import QueryDesk.Proofs.Json.Quoted
import QueryDesk.Proofs.Json.Leaves
import QueryDesk.Proofs.Json.Lexing
import QueryDesk.Proofs.Json.RoundTrip
import QueryDesk.Proofs.Json.WholeNumber
import QueryDesk.Proofs.Number.Rounding
import QueryDesk.Proofs.Number.Nearest
import QueryDesk.Proofs.Number.Shortest
import QueryDesk.Proofs.Number.ReadBack
import QueryDesk.Proofs.Number.Order
import QueryDesk.Proofs.Json.FiniteNumbers
import QueryDesk.Proofs.Json.Record
import QueryDesk.Proofs.Query.Saved
import QueryDesk.Proofs.Query.Version
import QueryDesk.Proofs.Schema.Wire
import QueryDesk.Proofs.Schema.Category
import QueryDesk.Proofs.Query.Part
import QueryDesk.Proofs.Query.Independence
import QueryDesk.Proofs.Query.Moving
import QueryDesk.Proofs.Query.Removal
import QueryDesk.Proofs.Query.Related
import QueryDesk.Proofs.Query.Choice
import QueryDesk.Proofs.Query.Executable
import QueryDesk.Proofs.Query.Placeholder
import QueryDesk.Proofs.Result.Shape
import QueryDesk.Proofs.Result.Wire
import QueryDesk.Proofs.Result.RowOrder
import QueryDesk.Proofs.Report.Grid
import QueryDesk.Proofs.Chart.Attribution
import QueryDesk.Proofs.Chart.Series
import QueryDesk.Proofs.Chart.Rules
import QueryDesk.Proofs.Chart.Ranking
import QueryDesk.Proofs.Chart.Drawing
import QueryDesk.Proofs.Chart.Inference
import QueryDesk.Proofs.Chart.RowOrder
import QueryDesk.Proofs.Chart.SelectionOrder
import QueryDesk.Proofs.Result.Key
import QueryDesk.Proofs.Result.ByValue
import QueryDesk.Proofs.Text.Scan
import QueryDesk.Proofs.Text.Letter
import QueryDesk.Proofs.Settings.Layers
import QueryDesk.Proofs.Calendar.Pattern
import QueryDesk.Proofs.Calendar.Quoting
import QueryDesk.Proofs.Calendar.Reading
import QueryDesk.Proofs.Calendar.Timestamp
import QueryDesk.Proofs.Calendar.Offset
import QueryDesk.Proofs.Calendar.RoundTrip
import QueryDesk.Proofs.Surroundings.Run
import QueryDesk.Proofs.Backend.Sending
import QueryDesk.Proofs.Backend.Waiting
