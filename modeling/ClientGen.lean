import ClientGen.Command
import ClientGen.CommandLine
import ClientGen.Config.Basic
import ClientGen.Config.File
import ClientGen.Config.Schema
import ClientGen.Decimal.Binary64
import ClientGen.Decimal.Extended
import ClientGen.Decimal.Pattern
import ClientGen.Decimal.Places
import ClientGen.Decode
import ClientGen.Digest.Blake
import ClientGen.Digest.Blocks
import ClientGen.Digest.Md5
import ClientGen.Digest.Sha
import ClientGen.Digest.Sm3
import ClientGen.Digest.Sums
import ClientGen.Document
import ClientGen.FileTree.Basic
import ClientGen.FileTree.Change
import ClientGen.FileTree.Read
import ClientGen.FileTree.Removal
import ClientGen.FileTree.Resolve
import ClientGen.Host.Disk
import ClientGen.Host.Files
import ClientGen.Host.Image
import ClientGen.Host.Machine
import ClientGen.Host.Processes
import ClientGen.Host.Signal
import ClientGen.Host.Streams
import ClientGen.Host.Thread
import ClientGen.Host.World
import ClientGen.Job.Invocation
import ClientGen.Job.Json
import ClientGen.Job.Script
import ClientGen.Json.Reader
import ClientGen.Json.Value
import ClientGen.Json.Writer
import ClientGen.Log.Event
import ClientGen.Log.Filter
import ClientGen.Log.Format
import ClientGen.Log.Pattern
import ClientGen.Main
import ClientGen.Manifest
import ClientGen.Path
import ClientGen.Program
import ClientGen.ProjectRoot
import ClientGen.Proofs.Bookkeeping
import ClientGen.Proofs.CommandNames
import ClientGen.Proofs.Containment
import ClientGen.Proofs.Deeds
import ClientGen.Proofs.Descendants
import ClientGen.Proofs.FailFast
import ClientGen.Proofs.GeneratorWords
import ClientGen.Proofs.Histories
import ClientGen.Proofs.Jobs
import ClientGen.Proofs.JsonForms
import ClientGen.Proofs.KeptEntries
import ClientGen.Proofs.ManifestText
import ClientGen.Proofs.Narration
import ClientGen.Proofs.Neighbours
import ClientGen.Proofs.OneDirectory
import ClientGen.Proofs.Overlays
import ClientGen.Proofs.PackagePlaces
import ClientGen.Proofs.PartialConfigs
import ClientGen.Proofs.PathComponents
import ClientGen.Proofs.PathText
import ClientGen.Proofs.PlainFields
import ClientGen.Proofs.PropertyMaps
import ClientGen.Proofs.Pruning
import ClientGen.Proofs.QuotedOctets
import ClientGen.Proofs.Quoting
import ClientGen.Proofs.ReadCommands
import ClientGen.Proofs.Removals
import ClientGen.Proofs.Repetition
import ClientGen.Proofs.ReservedWords
import ClientGen.Proofs.RootSearch
import ClientGen.Proofs.Runs
import ClientGen.Proofs.SavedConfig
import ClientGen.Proofs.Schemas
import ClientGen.Proofs.ScriptCommands
import ClientGen.Proofs.ScriptWords
import ClientGen.Proofs.Splits
import ClientGen.Proofs.Stations
import ClientGen.Proofs.TimeLimits
import ClientGen.Proofs.TomlLayouts
import ClientGen.Proofs.TomlLines
import ClientGen.Proofs.TomlNumbers
import ClientGen.Proofs.TomlPlaces
import ClientGen.Proofs.TomlTables
import ClientGen.Proofs.TomlTexts
import ClientGen.Proofs.Tracks
import ClientGen.Proofs.Turns
import ClientGen.Proofs.UnreadableManifest
import ClientGen.Proofs.WordPositions
import ClientGen.Proofs.Writes
import ClientGen.Run.Job
import ClientGen.Run.Project
import ClientGen.Run.Prune
import ClientGen.Run.Session
import ClientGen.Shell.Arithmetic
import ClientGen.Shell.Builtin.Condition
import ClientGen.Shell.Builtin.Directory
import ClientGen.Shell.Builtin.Jobs
import ClientGen.Shell.Builtin.Letters
import ClientGen.Shell.Builtin.Names
import ClientGen.Shell.Builtin.Print
import ClientGen.Shell.Builtin.Read
import ClientGen.Shell.Builtin.Variables
import ClientGen.Shell.Copy
import ClientGen.Shell.Executor
import ClientGen.Shell.Expansion
import ClientGen.Shell.Field
import ClientGen.Shell.Glob
import ClientGen.Shell.Interpreter
import ClientGen.Shell.Job
import ClientGen.Shell.Parser
import ClientGen.Shell.Pattern
import ClientGen.Shell.Quote
import ClientGen.Shell.Reader
import ClientGen.Shell.Redirect
import ClientGen.Shell.Search
import ClientGen.Shell.Start
import ClientGen.Shell.State
import ClientGen.Shell.Syntax
import ClientGen.Shell.Words
import ClientGen.Text.Alphanumeric
import ClientGen.Text.Armour
import ClientGen.Text.Blank
import ClientGen.Text.Bytes
import ClientGen.Text.ControlSequence
import ClientGen.Text.Conversion
import ClientGen.Text.Dictionary
import ClientGen.Text.Numeral
import ClientGen.Text.Octets
import ClientGen.Text.Printable
import ClientGen.Text.Regular
import ClientGen.Text.Utf8
import ClientGen.Text.Version
import ClientGen.Time.Calendar
import ClientGen.Time.Format
import ClientGen.Time.Reading
import ClientGen.Time.Word
import ClientGen.Time.Zone
import ClientGen.Toml.Classes
import ClientGen.Toml.Decode
import ClientGen.Toml.Document
import ClientGen.Toml.Reader
import ClientGen.Toml.Scalar
import ClientGen.Toml.Value
import ClientGen.Toml.Writer
import ClientGen.Utility.Accounts
import ClientGen.Utility.Amount
import ClientGen.Utility.Backup
import ClientGen.Utility.BlockCopy
import ClientGen.Utility.Checksum
import ClientGen.Utility.Columns
import ClientGen.Utility.Comparing
import ClientGen.Utility.Condition
import ClientGen.Utility.Copying
import ClientGen.Utility.Dates
import ClientGen.Utility.Details
import ClientGen.Utility.Directories
import ClientGen.Utility.Dump
import ClientGen.Utility.Encoding
import ClientGen.Utility.Expression
import ClientGen.Utility.Fields
import ClientGen.Utility.Filling
import ClientGen.Utility.Identity
import ClientGen.Utility.Input
import ClientGen.Utility.Installing
import ClientGen.Utility.Launch
import ClientGen.Utility.Lines
import ClientGen.Utility.Linking
import ClientGen.Utility.Listing
import ClientGen.Utility.Making
import ClientGen.Utility.Names
import ClientGen.Utility.Numbering
import ClientGen.Utility.Options
import ClientGen.Utility.Ownership
import ClientGen.Utility.Paths
import ClientGen.Utility.Permissions
import ClientGen.Utility.Printing
import ClientGen.Utility.Quantity
import ClientGen.Utility.Quoting
import ClientGen.Utility.Ranking
import ClientGen.Utility.Removal
import ClientGen.Utility.Sections
import ClientGen.Utility.Settling
import ClientGen.Utility.Size
import ClientGen.Utility.Sorting
import ClientGen.Utility.Span
import ClientGen.Utility.Splitting
import ClientGen.Utility.Table
import ClientGen.Utility.Tabs
import ClientGen.Utility.Tool
import ClientGen.Utility.Transfer
import ClientGen.Utility.Translate
import ClientGen.Utility.Usage
import ClientGen.Utility.Waiting
