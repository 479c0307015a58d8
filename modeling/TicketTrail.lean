import TicketTrail.NonEmpty
import TicketTrail.Text.Blank
import TicketTrail.Text.CaseTable
import TicketTrail.Text.Lowercase
import TicketTrail.Text.Split
import TicketTrail.Text.Sorted
import TicketTrail.Dictionary
import TicketTrail.Decimal
import TicketTrail.Time.Calendar
import TicketTrail.Time.Instant
import TicketTrail.Time.Rfc3339
import TicketTrail.Axis
import TicketTrail.Scale.NameRule
import TicketTrail.Scale.RankTable
import TicketTrail.Scale
import TicketTrail.Event
import TicketTrail.Pattern.Condition
import TicketTrail.Pattern.Printer
import TicketTrail.Pattern.Error
import TicketTrail.Pattern.Parser
import TicketTrail.Pattern.Match
import TicketTrail.Board
import TicketTrail.Project.Glob
import TicketTrail.Project.Pattern
import TicketTrail.Project.Resolution
import TicketTrail.Files
import TicketTrail.Files.Tree
import TicketTrail.Json.Value
import TicketTrail.Json.Printer
import TicketTrail.Json.Reader
import TicketTrail.Json.Decoder
import TicketTrail.Json.Held
import TicketTrail.Toml.Value
import TicketTrail.Toml.Scalar
import TicketTrail.Toml.Reader
import TicketTrail.Yaml.Source
import TicketTrail.Yaml.Cursor
import TicketTrail.Yaml.Scalar
import TicketTrail.Yaml.Scalar.Flow
import TicketTrail.Yaml.Scalar.Block
import TicketTrail.Yaml.Token
import TicketTrail.Yaml.Token.Name
import TicketTrail.Yaml.Token.Lexer
import TicketTrail.Yaml.Event
import TicketTrail.Yaml.Node
import TicketTrail.Yaml.Document
import TicketTrail.Settings
import TicketTrail.Settings.Format
import TicketTrail.Snapshot
import TicketTrail.Snapshot.Format
import TicketTrail.SavedSearch
import TicketTrail.SavedSearch.Format
import TicketTrail.Catalog
import TicketTrail.Transcript
import TicketTrail.Console
import TicketTrail.Check
import TicketTrail.Search.Filters
import TicketTrail.Search.Evaluation
import TicketTrail.Search.Trail
import TicketTrail.Search.Hit
import TicketTrail.Search.Plan
import TicketTrail.Search.Run
import TicketTrail.CommandLine.Flag
import TicketTrail.CommandLine.Arguments
import TicketTrail.CommandLine.Invocation
import TicketTrail.CommandLine.Help
import TicketTrail.CommandLine.Run
import TicketTrail.Main
import TicketTrail.Proofs.Text.Trimming
import TicketTrail.Proofs.Text.Lowercase
import TicketTrail.Proofs.Pattern.Reading
import TicketTrail.Proofs.Pattern.RoundTrip
import TicketTrail.Proofs.Pattern.Matching
import TicketTrail.Proofs.Pattern.Operators
import TicketTrail.Proofs.Project.Globs
import TicketTrail.Proofs.Project.Names
import TicketTrail.Proofs.Search.Rearrangement
import TicketTrail.Proofs.Search.Operators
import TicketTrail.Proofs.Pattern.Grammar
import TicketTrail.Proofs.Project.Resolution
import TicketTrail.Proofs.Project.Combinations
import TicketTrail.Proofs.Search.Boards
import TicketTrail.Proofs.Search.Criteria
import TicketTrail.Proofs.Search.Results
import TicketTrail.Proofs.Search.Outcome
import TicketTrail.Proofs.Search.UnknownColumns
import TicketTrail.Proofs.Search.ColumnWarnings
import TicketTrail.Proofs.Project.Reading
import TicketTrail.Proofs.Check
import TicketTrail.Proofs.Search.Tags
import TicketTrail.Proofs.Json.FieldOrder
import TicketTrail.Proofs.Search.SavedRuns
import TicketTrail.Proofs.Pattern.Spelling
import TicketTrail.Proofs.Pattern.RankOrder
import TicketTrail.Proofs.Pattern.Directions
import TicketTrail.Proofs.Search.Workboards
import TicketTrail.Proofs.Search.NormalTags
import TicketTrail.Proofs.Pattern.Explanation
import TicketTrail.Proofs.Numeral
import TicketTrail.Proofs.Search.TitleQuery
import TicketTrail.Proofs.Time.Calendar
import TicketTrail.Proofs.Time.Timestamps
import TicketTrail.Proofs.Json.RoundTrip
import TicketTrail.Proofs.Json.Records
import TicketTrail.Proofs.Snapshot.RoundTrip
import TicketTrail.Proofs.Search.Translation
import TicketTrail.Proofs.Pattern.Kinds
import TicketTrail.Proofs.Search.Trails
import TicketTrail.Proofs.Search.Unmoved
import TicketTrail.Proofs.Scale.Positions
import TicketTrail.Proofs.Catalog.Statuses
import TicketTrail.Proofs.Settings.Orders
import TicketTrail.Proofs.Time.DaysEarlier
import TicketTrail.Proofs.Search.Ages
