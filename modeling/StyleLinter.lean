import StyleLinter.CommandLine.Run
import StyleLinter.Main
import StyleLinter.ModuleName
import StyleLinter.Proofs.ExceptionList.Line
import StyleLinter.Proofs.Sequence
import StyleLinter.Proofs.Utf8
import StyleLinter.Proofs.Order
import StyleLinter.Proofs.ExceptionList.Listing
import StyleLinter.Proofs.Files.Growth
import StyleLinter.Proofs.Files.Making
import StyleLinter.Proofs.Files.Writing
import StyleLinter.Proofs.Registry.Loading
import StyleLinter.Proofs.Check.Findings
import StyleLinter.Proofs.Check.Messages
import StyleLinter.Proofs.Path
import StyleLinter.Proofs.Discovery.Found
import StyleLinter.Proofs.Lint.Reported
import StyleLinter.Proofs.CommandLine.Steps
import StyleLinter.Proofs.CommandLine.Gate
import StyleLinter.Proofs.CommandLine.Update
import StyleLinter.Proofs.CommandLine.Clean
import StyleLinter.Proofs.CommandLine.Rewriting
import StyleLinter.Proofs.CommandLine.Overlooked
import StyleLinter.Proofs.ExceptionList.RoundTrip
import StyleLinter.Proofs.CommandLine.Readable
import StyleLinter.Proofs.Files.Routes
import StyleLinter.Proofs.Discovery.Walked
import StyleLinter.Proofs.Discovery.Selected
import StyleLinter.Proofs.Aggregator.Turn
import StyleLinter.Proofs.Aggregator.Run
import StyleLinter.Proofs.ModuleName
import StyleLinter.Proofs.CommandLine.Aggregation
import StyleLinter.Proofs.Lint.Roots
import StyleLinter.Proofs.Lint.Standing
import StyleLinter.Proofs.Lint.Redundancy
import StyleLinter.Proofs.Check.Entries
import StyleLinter.Proofs.Lint.Selection
import StyleLinter.Proofs.CommandLine.Intact
import StyleLinter.Proofs.ExceptionList.Appending
import StyleLinter.Proofs.CommandLine.Appending
import StyleLinter.Proofs.Discovery.Walkable
import StyleLinter.Proofs.Discovery.Agreement
import StyleLinter.Proofs.Aggregator.Naming
import StyleLinter.Proofs.Failure
import StyleLinter.Proofs.ExceptionList.Grammar
import StyleLinter.Proofs.ExceptionList.Faults
import StyleLinter.Proofs.Registry.Answers
import StyleLinter.Proofs.Configuration
import StyleLinter.Proofs.Discovery.Trouble
import StyleLinter.Proofs.Discovery.PassedOn
import StyleLinter.Proofs.Lint.PassedOn
import StyleLinter.Proofs.Discovery.Listed
import StyleLinter.Proofs.Discovery.Named
import StyleLinter.Proofs.ModuleName.Domain
import StyleLinter.Proofs.Files.Straight
import StyleLinter.Proofs.Aggregator.Settled
import StyleLinter.Proofs.Check.Positions
import StyleLinter.Proofs.Lint.Distinct
import StyleLinter.Proofs.Aggregator.PassedOn
import StyleLinter.Proofs.CommandLine.Announced
import StyleLinter.Proofs.Text.Endings
import StyleLinter.Proofs.Check.Contents
import StyleLinter.Proofs.Lint.Endings
import StyleLinter.Proofs.Check.Grammar
import StyleLinter.Proofs.Check.Documentation
import StyleLinter.Proofs.Check.HeaderEnd
import StyleLinter.Proofs.Check.Forbidden
import StyleLinter.Proofs.Build.Sections
import StyleLinter.Proofs.Build.Layout
import StyleLinter.Proofs.Build.CommentLine
import StyleLinter.Proofs.Discovery.Nesting
import StyleLinter.Proofs.Discovery.Tracked
import StyleLinter.Proofs.Report.Rich
import StyleLinter.Proofs.CommandLine.Fatal
import StyleLinter.Proofs.Entry
