import StatusLine.Bounds
import StatusLine.Calendar.Date
import StatusLine.Calendar.Instant
import StatusLine.Calendar.Rounding
import StatusLine.Calendar.TimeOfDay
import StatusLine.Calendar.Timestamp
import StatusLine.Command.Arguments
import StatusLine.Command.Basic
import StatusLine.Command.Job
import StatusLine.Command.Run
import StatusLine.Configuration
import StatusLine.Console
import StatusLine.DirectoryPath
import StatusLine.Environment
import StatusLine.Failure
import StatusLine.Fault
import StatusLine.File
import StatusLine.FileTree
import StatusLine.Git.Abbreviation
import StatusLine.Git.PackedRefs
import StatusLine.Git.RefName
import StatusLine.Git.Repository
import StatusLine.Git.Target
import StatusLine.History
import StatusLine.Json.Basic
import StatusLine.Json.Magnitude
import StatusLine.Json.Printer
import StatusLine.Json.Reader
import StatusLine.Json.Record
import StatusLine.Locations
import StatusLine.Main
import StatusLine.Placeholder.Basic
import StatusLine.Placeholder.Modifier
import StatusLine.Placeholder.Record
import StatusLine.Proofs.Atomicity
import StatusLine.Proofs.CommandEffects
import StatusLine.Proofs.DayNumbers
import StatusLine.Proofs.DirectoryAncestors
import StatusLine.Proofs.Escapes
import StatusLine.Proofs.FaultScopes
import StatusLine.Proofs.FirstLetter
import StatusLine.Proofs.HeadReference
import StatusLine.Proofs.HistoryDamage
import StatusLine.Proofs.HistoryRuns
import StatusLine.Proofs.JsonReading
import StatusLine.Proofs.JsonRecords
import StatusLine.Proofs.JsonTokens
import StatusLine.Proofs.LowerCase
import StatusLine.Proofs.ModifierSlots
import StatusLine.Proofs.ModifierSteps
import StatusLine.Proofs.Numerals
import StatusLine.Proofs.PlaceholderForms
import StatusLine.Proofs.PlaceholderJson
import StatusLine.Proofs.PlaceholderWriting
import StatusLine.Proofs.Rendering
import StatusLine.Proofs.RoundedTimes
import StatusLine.Proofs.Sessions
import StatusLine.Proofs.Steps
import StatusLine.Proofs.Storage
import StatusLine.Proofs.TemplateGrammar
import StatusLine.Proofs.TemplateJoining
import StatusLine.Proofs.TemplateReading
import StatusLine.Proofs.TemplateWriting
import StatusLine.Proofs.TimeModifiers
import StatusLine.Proofs.TimePatterns
import StatusLine.Proofs.TimeSpanGrammar
import StatusLine.Proofs.TimeSpanReading
import StatusLine.Proofs.TimestampReading
import StatusLine.Proofs.WallClock
import StatusLine.Proofs.WordCuts
import StatusLine.Render
import StatusLine.Status
import StatusLine.Template
import StatusLine.Text.Digits
import StatusLine.Text.Escaped
import StatusLine.Text.Pieces
import StatusLine.Text.Utf8
import StatusLine.TimeSpan
import StatusLine.Unicode.Blank
import StatusLine.Unicode.CaseMap
import StatusLine.Unicode.Casing
import StatusLine.Unicode.Ranges
import StatusLine.Unicode.Uppercase
import StatusLine.Unicode.WordContext
import StatusLine.Words.Casing
import StatusLine.Words.Split
import StatusLine.Words.Style
