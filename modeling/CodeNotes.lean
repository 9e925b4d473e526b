import CodeNotes.Binary64.Basic
import CodeNotes.Binary64.Shortest
import CodeNotes.Cli.Spec
import CodeNotes.Cli.Program
import CodeNotes.Cli.Complete.Basic
import CodeNotes.Cli.Complete.Bash
import CodeNotes.Cli.Complete.Elvish
import CodeNotes.Cli.Complete.Fish
import CodeNotes.Cli.Complete.PowerShell
import CodeNotes.Cli.Complete.Zsh
import CodeNotes.Cli.Help
import CodeNotes.Comment.Basic
import CodeNotes.Time.Instant
import CodeNotes.Text.Blank
import CodeNotes.Text.Infix
import CodeNotes.Store.Note
import CodeNotes.Store.Cell
import CodeNotes.Store.Uuid
import CodeNotes.Store.Error
import CodeNotes.Store.Database
import CodeNotes.Store.Class
import CodeNotes.Log
import CodeNotes.Reconcile.Basic
import CodeNotes.Json.Value
import CodeNotes.Text.CaseData
import CodeNotes.Text.Lower
import CodeNotes.Comment.TagSet
import CodeNotes.Path.Basic
import CodeNotes.Config.Basic
import CodeNotes.Cli.Output
import CodeNotes.Cli.Similar
import CodeNotes.Cli.Parse
import CodeNotes.Cli.Request
import CodeNotes.Text.Quoted
import CodeNotes.Json.Error
import CodeNotes.Json.Read
import CodeNotes.Config.Read
import CodeNotes.Fs.Error
import CodeNotes.Config.Error
import CodeNotes.Fs.Tree
import CodeNotes.Config.File
import CodeNotes.Store.Statement
import CodeNotes.Fs.NoteFile
import CodeNotes.Discovery.Walk
import CodeNotes.Glob.Pattern
import CodeNotes.Extract.Pattern
import CodeNotes.Extract.Rule
import CodeNotes.Extract.Python
import CodeNotes.Extract.Registry
import CodeNotes.Extract.Cursor
import CodeNotes.Discovery.Collect
import CodeNotes.Discovery.Load
import CodeNotes.Discovery.Pool
import CodeNotes.Discovery.Engine
import CodeNotes.Discovery.Flight
import CodeNotes.Project.Basic
import CodeNotes.Cli.Run
import CodeNotes.Main
import CodeNotes.Proofs.Time.Stored
import CodeNotes.Proofs.Store.NoteMap
import CodeNotes.Proofs.Store.Rows
import CodeNotes.Proofs.Store.Refinement
import CodeNotes.Proofs.Store.Times
import CodeNotes.Proofs.Reconcile.Keys
import CodeNotes.Proofs.Reconcile.Pass
import CodeNotes.Proofs.Reconcile.Tables
import CodeNotes.Proofs.Reconcile.Postcondition
import CodeNotes.Proofs.Reconcile.Convergence
import CodeNotes.Proofs.Discovery.SingleFile
import CodeNotes.Proofs.Discovery.Files
import CodeNotes.Proofs.Discovery.Schedules
import CodeNotes.Proofs.Path.Components
import CodeNotes.Proofs.Project.NotePath
import CodeNotes.Proofs.Extract.Scan
import CodeNotes.Proofs.Extract.Sweep
import CodeNotes.Proofs.Extract.Merge
import CodeNotes.Proofs.Comment.Classify
import CodeNotes.Proofs.Text.Settled
import CodeNotes.Proofs.Extract.Registry
import CodeNotes.Proofs.Extract.Cursor
import CodeNotes.Proofs.Comment.Normalize
import CodeNotes.Proofs.Config.Settings
import CodeNotes.Proofs.Discovery.Walk
import CodeNotes.Proofs.Discovery.Collector
import CodeNotes.Proofs.Discovery.Loading
import CodeNotes.Proofs.Discovery.Agreement
import CodeNotes.Proofs.Reconcile.Purge
import CodeNotes.Proofs.Reconcile.Lagging
import CodeNotes.Proofs.Reconcile.Progress
