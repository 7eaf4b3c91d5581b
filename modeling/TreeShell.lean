import TreeShell.Log.Filter
import TreeShell.Main
import TreeShell.Script
import TreeShell.Proofs.Json.RoundTrip
import TreeShell.Proofs.Path.Segments
import TreeShell.Proofs.Path.Resolve
import TreeShell.Proofs.Time.Stamp
import TreeShell.Proofs.Time.Order
import TreeShell.Proofs.Tree.Position
import TreeShell.Proofs.Tree.Step
import TreeShell.Proofs.Tree.Document
import TreeShell.Proofs.Tree.Stamps
import TreeShell.Proofs.Tree.Frame
import TreeShell.Proofs.Frame
import TreeShell.Proofs.Command.Reply
import TreeShell.Proofs.Line
import TreeShell.Proofs.Effect
import TreeShell.Proofs.Refusal
import TreeShell.Proofs.WriteFaults
import TreeShell.Proofs.Run
import TreeShell.Proofs.Tree.Retiming
import TreeShell.Proofs.Tree.Reordering
import TreeShell.Proofs.ReadBack
import TreeShell.Proofs.Protection
import TreeShell.Proofs.Command.Alike
import TreeShell.Proofs.Soundness
import TreeShell.Proofs.Alike
import TreeShell.Proofs.Reopening
import TreeShell.Proofs.Timeline
import TreeShell.Proofs.ReadFaults
import TreeShell.Proofs.WorkingDirectory
import TreeShell.Proofs.Independence
import TreeShell.Proofs.History
import TreeShell.Proofs.Launch.Host
import TreeShell.Proofs.Launch.Input
import TreeShell.Proofs.Launch.Options
import TreeShell.Proofs.Launch.Turn
import TreeShell.Proofs.Launch.LineByLine
import TreeShell.Proofs.Launch.Ephemeral
import TreeShell.Proofs.Seeding
import TreeShell.Proofs.Launch.Plan
import TreeShell.Proofs.Launch.Reset
import TreeShell.Proofs.Opening
import TreeShell.Proofs.Text.Words
import TreeShell.Proofs.Command.Redirect
import TreeShell.Proofs.Redirection
import TreeShell.Proofs.Undoing
import TreeShell.Proofs.Json.Spelling
import TreeShell.Proofs.Tree.Variants
import TreeShell.Proofs.Tree.Listing
import TreeShell.Proofs.Path.Compose
import TreeShell.Proofs.Path.SegmentLaws
import TreeShell.Proofs.Command.Directories
import TreeShell.Proofs.Navigation
import TreeShell.Proofs.Tree.Growth
import TreeShell.Proofs.SeedingInUse
import TreeShell.Proofs.Text.LowerCase
import TreeShell.Proofs.Launch.ClearScreen
import TreeShell.Proofs.Store.LastWrite
import TreeShell.Proofs.Prompt
import TreeShell.Proofs.Pattern.LetterCase
import TreeShell.Proofs.Pattern.Reading
import TreeShell.Proofs.Search
import TreeShell.Proofs.Log.Levels
import TreeShell.Proofs.Log.Journal
