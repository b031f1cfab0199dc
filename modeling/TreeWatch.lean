import TreeWatch.Text.Blank
import TreeWatch.Text.Lowercase
import TreeWatch.Text.Quoted
import TreeWatch.Text.Property
import TreeWatch.Duration
import TreeWatch.Diff
import TreeWatch.Listing
import TreeWatch.Pattern.Glob
import TreeWatch.Pattern.Regex.Parser
import TreeWatch.Toml.Document
import TreeWatch.CommandLine
import TreeWatch.Remark
import TreeWatch.Monitor
import TreeWatch.Store
import TreeWatch.Filter.Select
import TreeWatch.Config.Basic
import TreeWatch.Simulation.Session
import TreeWatch.Simulation.Trial
import TreeWatch.Main
import TreeWatch.Proofs.Path.Child
import TreeWatch.Proofs.Text.Lossy
import TreeWatch.Proofs.Store.Names
import TreeWatch.Proofs.Store.Listings
import TreeWatch.Proofs.Store.Growth
import TreeWatch.Proofs.Store.Lineage
import TreeWatch.Proofs.Store.Orphans
import TreeWatch.Proofs.Comparator.Order
import TreeWatch.Proofs.Comparator.Identity
import TreeWatch.Proofs.Diff.Pairing
import TreeWatch.Proofs.Entry.Tree
import TreeWatch.Proofs.Entry.Traversal
import TreeWatch.Proofs.Diff.Siblings
import TreeWatch.Proofs.Snapshot.Capture
import TreeWatch.Proofs.Diff.Events
import TreeWatch.Proofs.Diff.Order
import TreeWatch.Proofs.Diff.Exact
import TreeWatch.Proofs.Diff.Overtaken
import TreeWatch.Proofs.Diff.Untouched
import TreeWatch.Proofs.Observer.Audience
import TreeWatch.Proofs.Observer.Replay
import TreeWatch.Proofs.Snapshot.Arrange
import TreeWatch.Proofs.Snapshot.Still
import TreeWatch.Proofs.Snapshot.Hidden
import TreeWatch.Proofs.Snapshot.Retained
import TreeWatch.Proofs.Snapshot.Attested
import TreeWatch.Proofs.Observer.Life
import TreeWatch.Proofs.Diff.Conservation
import TreeWatch.Proofs.Diff.Mirror
import TreeWatch.Proofs.Observer.Hearing
import TreeWatch.Proofs.Observer.Delivery
import TreeWatch.Proofs.Observer.Repetition
import TreeWatch.Proofs.Monitor.Loop
import TreeWatch.Proofs.Monitor.Clock
import TreeWatch.Proofs.Monitor.Stop
import TreeWatch.Proofs.Path.Relative
import TreeWatch.Proofs.Snapshot.Trail
import TreeWatch.Proofs.Snapshot.Termination
import TreeWatch.Proofs.Snapshot.Root
import TreeWatch.Proofs.Config.Checked
import TreeWatch.Proofs.Config.Selection
import TreeWatch.Proofs.Observer.Alone
import TreeWatch.Proofs.Monitor.Isolation
import TreeWatch.Proofs.Listing.Order
import TreeWatch.Proofs.Listing.Outline
import TreeWatch.Proofs.Filter.Length
import TreeWatch.Proofs.Filter.Signature
import TreeWatch.Proofs.Text.Lowercase
import TreeWatch.Proofs.Text.Letters
import TreeWatch.Proofs.Duration.Spelling
import TreeWatch.Proofs.Filter.Case
import TreeWatch.Proofs.Pattern.Escape
import TreeWatch.Proofs.Path.Spelling
import TreeWatch.Proofs.Filter.Profile
