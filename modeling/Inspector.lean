import Inspector.Diagnostics.Channel
import Inspector.Main
import Inspector.Proofs.CSharp.Unambiguous
import Inspector.Proofs.Editor.Drawn
import Inspector.Proofs.Editor.Members
import Inspector.Proofs.Editor.Reference
import Inspector.Proofs.Generation.OneShot
import Inspector.Proofs.CSharp.Parts
import Inspector.Proofs.Editor.Expressions
import Inspector.Proofs.Naming.Derived
import Inspector.Proofs.Editor.Capture
import Inspector.Proofs.CSharp.Letters
import Inspector.Proofs.CSharp.Lexical
import Inspector.Proofs.Naming.Shown
import Inspector.Proofs.Naming.Breaks
import Inspector.Proofs.Naming.Unbroken
import Inspector.Proofs.Editor.LineEnds
import Inspector.Proofs.Description.Limits
import Inspector.Proofs.Number.Order
import Inspector.Proofs.Number.Value
import Inspector.Proofs.Editor.Sliders
import Inspector.Proofs.Diagnostics.Delivery
import Inspector.Proofs.Generation.Notices
import Inspector.Proofs.Diagnostics.Reentrance
import Inspector.Proofs.Command.Prediction
import Inspector.Proofs.Command.Warnings
import Inspector.Proofs.Command.Written
import Inspector.Proofs.Description.Conversion
import Inspector.Proofs.Generation.Place
import Inspector.Proofs.Generation.Trace
import Inspector.Proofs.Command.Audience
import Inspector.Proofs.CSharp.Lacking
import Inspector.Proofs.CSharp.Scope
import Inspector.Proofs.CSharp.Beginnings
import Inspector.Proofs.CSharp.Layout
import Inspector.Proofs.Editor.Layout
import Inspector.Proofs.CSharp.Quotation
import Inspector.Proofs.Editor.Quotation
import Inspector.Proofs.Plan.Limits
import Inspector.Proofs.Plan.Adjustments
import Inspector.Proofs.Plan.Order
import Inspector.Proofs.Plan.Altered
import Inspector.Proofs.Command.Reminder
import Inspector.Proofs.CSharp.Imports
import Inspector.Proofs.Diagnostics.Lines
import Inspector.Proofs.Description.Kinds
