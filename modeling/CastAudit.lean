import CastAudit.Text.Basic
import CastAudit.Text.Utf8
import CastAudit.Text.Blank
import CastAudit.Text.Decimal
import CastAudit.Character.Table
import CastAudit.Text.ClusterTable
import CastAudit.Character.Letters
import CastAudit.Character.Marks
import CastAudit.Character.Script
import CastAudit.Character.Signs
import CastAudit.Character.Category
import CastAudit.Text.Quoted
import CastAudit.Text.Lines
import CastAudit.Text.Cluster
import CastAudit.Text.Cell
import CastAudit.Kind
import CastAudit.Record
import CastAudit.Disk.Error
import CastAudit.Csv.Error
import CastAudit.Rule
import CastAudit.Fault
import CastAudit.Package
import CastAudit.Csv.Writer
import CastAudit.Pattern
import CastAudit.Header
import CastAudit.Header.Fields
import CastAudit.Profile
import CastAudit.Location
import CastAudit.Path
import CastAudit.Disk.Host
import CastAudit.Scan
import CastAudit.Disk.Tree
import CastAudit.Disk.Machine
import CastAudit.Csv.Reader
import CastAudit.Digest
import CastAudit.Packed
import CastAudit.Cache.Entry
import CastAudit.Cache.Recent
import CastAudit.Cache
import CastAudit.Listing
import CastAudit.Run
import CastAudit.Run.Workers
import CastAudit.Store.Records
import CastAudit.Store.Failures
import CastAudit.Ranking.Tables
import CastAudit.Ranking
import CastAudit.Markers
import CastAudit.LineStats
import CastAudit.Narrow
import CastAudit.Json.Basic
import CastAudit.Json.Printer
import CastAudit.Json.Reader
import CastAudit.Json.Binding
import CastAudit.RecordJson
import CastAudit.Report
import CastAudit.Character.Case
import CastAudit.Regex
import CastAudit.Regex.Reader
import CastAudit.Calendar
import CastAudit.Internet
import CastAudit.Text.Case
import CastAudit.Url
import CastAudit.Decimal
import CastAudit.Schema
import CastAudit.Text.Base64
import CastAudit.Mail
import CastAudit.Schema.Format
import CastAudit.Binary
import CastAudit.Schema.Check
import CastAudit.Schema.Draft
import CastAudit.Schema.Library
import CastAudit.Schema.Compile
import CastAudit.Schema.Files
import CastAudit.Report.Schemas
import CastAudit.Box
import CastAudit.Toml.Basic
import CastAudit.Toml.Date
import CastAudit.Toml.Reader
import CastAudit.Settings
import CastAudit.EnvFile
import CastAudit.Curve
import CastAudit.Digest.Wide
import CastAudit.Curve.Twisted
import CastAudit.Certificate
import CastAudit.Duration
import CastAudit.Database
import CastAudit.Command.Flag
import CastAudit.Command.Line
import CastAudit.Command.Output
import CastAudit.Database.Files
import CastAudit.Command.Scan
import CastAudit.Command.Reports
import CastAudit.Command
import CastAudit.Main
import CastAudit.Proofs.Text.Lines
import CastAudit.Proofs.Text.Split
import CastAudit.Proofs.Text.Separators
import CastAudit.Proofs.Text.Characters
import CastAudit.Proofs.Text.Validity
import CastAudit.Proofs.Text.Ends
import CastAudit.Proofs.Package.Ids
import CastAudit.Proofs.Header.Classify
import CastAudit.Proofs.Header.Grammar
import CastAudit.Proofs.Scan.Positions
import CastAudit.Proofs.Scan.LineEndings
import CastAudit.Proofs.Scan.Printing
import CastAudit.Proofs.Run.Pool
import CastAudit.Proofs.Run.Order
import CastAudit.Proofs.Disk.Paths
import CastAudit.Proofs.Disk.Trees
import CastAudit.Proofs.Cache.Keys
import CastAudit.Proofs.Cache.Entries
import CastAudit.Proofs.Cache.Transparency
import CastAudit.Proofs.Csv.RoundTrip
import CastAudit.Proofs.Disk.Opening
import CastAudit.Proofs.Text.Numbers
import CastAudit.Proofs.Store.Records
import CastAudit.Proofs.Store.Writers
import CastAudit.Proofs.Command.Quiet
import CastAudit.Proofs.Store.Failures
import CastAudit.Proofs.Scan.Fields
import CastAudit.Proofs.Cache.Separation
import CastAudit.Proofs.Disk.Folders
import CastAudit.Proofs.Run.Schedules
import CastAudit.Proofs.Run.Visiting
import CastAudit.Proofs.Cache.Refinement
import CastAudit.Proofs.Command.Finishing
import CastAudit.Proofs.Run.Findings
import CastAudit.Proofs.Cache.Packing
import CastAudit.Proofs.Cache.Confusion
import CastAudit.Proofs.Command.Steps
import CastAudit.Proofs.Command.Scanning
import CastAudit.Proofs.Command.Retrying
import CastAudit.Proofs.Command.Repeating
import CastAudit.Proofs.Ranking.Join
import CastAudit.Proofs.Ranking.Bugs
import CastAudit.Proofs.Ranking.Keys
import CastAudit.Proofs.Pattern.Frequency
import CastAudit.Proofs.Pattern.Printing
import CastAudit.Proofs.Json.Strings
import CastAudit.Proofs.Json.Printing
import CastAudit.Proofs.Schema.Fits
import CastAudit.Proofs.Report.Documents
import CastAudit.Proofs.Report.Sources
import CastAudit.Proofs.Run.Counts
import CastAudit.Proofs.Command.Reporting
import CastAudit.Proofs.Scan.LongLines
import CastAudit.Proofs.Scan.Restriction
import CastAudit.Proofs.Scan.WellFormed
import CastAudit.Proofs.LineStats.Sums
import CastAudit.Proofs.Listing.Loading
import CastAudit.Proofs.Store.Lists
import CastAudit.Proofs.Listing.Discovery
import CastAudit.Proofs.Run.Recovery
import CastAudit.Proofs.Json.Compact
import CastAudit.Proofs.Json.Records
import CastAudit.Proofs.Csv.Lines
import CastAudit.Proofs.Ranking.Tables
