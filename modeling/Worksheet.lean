import Worksheet.Address.Interchange
import Worksheet.CommandLine.Run
import Worksheet.Dependency.Cycle
import Worksheet.Main
import Worksheet.Proofs.Sheet.Determined
import Worksheet.Proofs.Dependency.Planning
import Worksheet.Proofs.Formula.Acceptance
import Worksheet.Proofs.Json.Number
import Worksheet.Proofs.Json.Text
import Worksheet.Proofs.Json.Fields
import Worksheet.Proofs.Record
import Worksheet.Proofs.Address.Column
import Worksheet.Proofs.SheetFile
import Worksheet.Proofs.Sheet.Selecting
import Worksheet.Proofs.Sheet.Entering
import Worksheet.Proofs.Sheet.Passes
import Worksheet.Proofs.Sheet.Awaiting
import Worksheet.Proofs.Sheet.Repeating
import Worksheet.Proofs.Sheet.Timeline
import Worksheet.Proofs.Sheet.Locating
import Worksheet.Proofs.Sheet.Retracing
import Worksheet.Proofs.Sheet.Loading
import Worksheet.Proofs.Sheet.Saving
import Worksheet.Proofs.Sheet.Operation
import Worksheet.Proofs.Sheet.Cascading
import Worksheet.Proofs.Sheet.Recording
import Worksheet.Proofs.Dependency.Unrepeated
import Worksheet.Proofs.Sheet.Effect
import Worksheet.Proofs.Sheet.Mirroring
import Worksheet.Proofs.Sheet.Announcing
import Worksheet.Proofs.Sheet.Reporting
import Worksheet.Proofs.Sheet.Completing
import Worksheet.Proofs.CommandLine.Arguments
import Worksheet.Proofs.CommandLine.Run
import Worksheet.Proofs.Sheet.Blaming
import Worksheet.Proofs.Sheet.Flagging
import Worksheet.Proofs.Sheet.Resting
import Worksheet.Proofs.CommandLine.Constant
import Worksheet.Proofs.Dependency.Returning
import Worksheet.Proofs.Address.Spelling
import Worksheet.Proofs.Formula.Munching
import Worksheet.Proofs.Formula.Reordering
import Worksheet.Proofs.Formula.Evaluation
import Worksheet.Proofs.Dependency.Relinking
import Worksheet.Proofs.SheetFile.Layout
import Worksheet.Proofs.Dependency.Guarding
import Worksheet.Proofs.Formula.Searching
import Worksheet.Proofs.Dependency.Components
import Worksheet.Proofs.Text.CharRanges
