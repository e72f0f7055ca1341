import LineLayout.Description.Constructed
import LineLayout.Description.Nesting
import LineLayout.Description.Texts
import LineLayout.Doc.Context
import LineLayout.Doc.Describe
import LineLayout.Doc.Extent
import LineLayout.Doc.Search
import LineLayout.Doc.Texts
import LineLayout.Journal.History
import LineLayout.Layout.Exhaustive
import LineLayout.Layout.Fill
import LineLayout.Layout.Ideal
import LineLayout.Layout.Lookahead.Copying
import LineLayout.Layout.Placement
import LineLayout.Layout.Trail
import LineLayout.Main
import LineLayout.Style.Screen
import LineLayout.Proofs.Lookahead.Search
import LineLayout.Proofs.Line.FirstFit
import LineLayout.Proofs.Lookahead.Plan
import LineLayout.Proofs.Printer.Steps
import LineLayout.Proofs.Printer.Decided
import LineLayout.Proofs.Printer.Anew
import LineLayout.Proofs.Printer.Trails
import LineLayout.Proofs.Printer.Ideal
import LineLayout.Proofs.Ideal.FirstLine
import LineLayout.Proofs.Ideal.Exhaustive
import LineLayout.Proofs.Fragment.Lines
import LineLayout.Proofs.Ideal.Widths
import LineLayout.Proofs.Placement.Resolved
import LineLayout.Proofs.Placement.Display
import LineLayout.Layout.Outlook
import LineLayout.Proofs.Outlook.Display
import LineLayout.Proofs.Outlook.Alike
import LineLayout.Proofs.Outlook.Laws
import LineLayout.Proofs.Placement.Hole
import LineLayout.Proofs.Outlook.Pruned
import LineLayout.Layout.Reach
import LineLayout.Proofs.Reach.Display
import LineLayout.Doc.Leaves
import LineLayout.Proofs.Doc.Search
import LineLayout.Proofs.Fragment.Breaks
import LineLayout.Proofs.Printer.Breaks
import LineLayout.Proofs.Text.Scanner
import LineLayout.Proofs.Json.Token
import LineLayout.Proofs.Json.Tree
import LineLayout.Proofs.Json.Description
import LineLayout.Proofs.Ron.Token
import LineLayout.Proofs.Ron.Tree
import LineLayout.Proofs.Ron.Description
import LineLayout.Proofs.Description.Read
import LineLayout.Layout.Foothold
import LineLayout.Proofs.Foothold.Breaks
import LineLayout.Proofs.Foothold.Widths
import LineLayout.Proofs.Foothold.Group
import LineLayout.Proofs.Journal.History
import LineLayout.Proofs.Lookahead.Exact
import LineLayout.Proofs.Lookahead.Ending
import LineLayout.Proofs.Doc.Flatten
import LineLayout.Proofs.Doc.Equality
import LineLayout.Command.Stages
import LineLayout.Proofs.Command.Run
import LineLayout.Proofs.Doc.Texts
import LineLayout.Proofs.Description.Build
import LineLayout.Proofs.Doc.Constructed
import LineLayout.Proofs.Style.Spans
import LineLayout.Proofs.Style.Screen
import LineLayout.Proofs.Style.Rgb
import LineLayout.Proofs.Outlook.Interleaving
import LineLayout.Proofs.Outlook.Ample
import LineLayout.Proofs.Outlook.Empty
import LineLayout.Proofs.Placement.Flat
import LineLayout.Proofs.Fill.Lines
import LineLayout.Proofs.Fill.Display
