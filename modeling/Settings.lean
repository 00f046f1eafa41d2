import Settings.Action
import Settings.Blob.Decode
import Settings.Blob.Encode
import Settings.Blob.Term
import Settings.Calendar.Date
import Settings.Calendar.Format
import Settings.Calendar.Pattern
import Settings.Container.Children
import Settings.Container.Node
import Settings.Decimal.Double
import Settings.Decimal.Layout
import Settings.Decimal.Shortest
import Settings.Display
import Settings.Editor.Bounds
import Settings.Editor.MultiChoice
import Settings.Editor.OptionTable
import Settings.Editor.Outcome
import Settings.Editor.Selection
import Settings.Editor.Sequence.Basic
import Settings.Editor.Sequence.Block
import Settings.Editor.Sequence.Clock
import Settings.Editor.Sequence.Positional
import Settings.Editor.Sequence.View
import Settings.Editor.Slider
import Settings.Editor.Switch
import Settings.Editor.TextField
import Settings.Editor.Timestamp
import Settings.Element.Basic
import Settings.Element.Kind
import Settings.Element.Operation
import Settings.Element.Registry
import Settings.Element.ValueEdit
import Settings.Error
import Settings.Keyed
import Settings.Main
import Settings.Numeral
import Settings.Proofs.Blob
import Settings.Proofs.Blob.Derivation
import Settings.Proofs.Blob.Reading
import Settings.Proofs.Blob.Rewriting
import Settings.Proofs.Blob.Weight
import Settings.Proofs.Container.Assigning
import Settings.Proofs.Container.Attaching
import Settings.Proofs.Container.Compact
import Settings.Proofs.Container.Fits
import Settings.Proofs.Container.LateBinding
import Settings.Proofs.Container.Node
import Settings.Proofs.Container.Persisted
import Settings.Proofs.Container.Place
import Settings.Proofs.Container.Removal
import Settings.Proofs.Container.Throughout
import Settings.Proofs.Container.Transfer
import Settings.Proofs.Container.Unclaimed
import Settings.Proofs.Container.Update
import Settings.Proofs.Container.WellFormed
import Settings.Proofs.Container.Writing
import Settings.Proofs.Editor.AutoJump
import Settings.Proofs.Editor.BlockEntry
import Settings.Proofs.Editor.Censor
import Settings.Proofs.Editor.Choices
import Settings.Proofs.Editor.Clock
import Settings.Proofs.Editor.Cursor
import Settings.Proofs.Editor.DigitEntry
import Settings.Proofs.Editor.Edges
import Settings.Proofs.Editor.FixedPoint
import Settings.Proofs.Editor.Marking
import Settings.Proofs.Editor.MultiChoice
import Settings.Proofs.Editor.Navigation
import Settings.Proofs.Editor.NumberField
import Settings.Proofs.Editor.OptionEntries
import Settings.Proofs.Editor.OptionTable
import Settings.Proofs.Editor.Scalar
import Settings.Proofs.Editor.Selection
import Settings.Proofs.Editor.Sequence
import Settings.Proofs.Editor.Stepping
import Settings.Proofs.Editor.TextCensor
import Settings.Proofs.Editor.TextCursor
import Settings.Proofs.Editor.TextDisplay
import Settings.Proofs.Editor.TextField
import Settings.Proofs.Editor.Toggling
import Settings.Proofs.Editor.Typing
import Settings.Proofs.Element.AutoJump
import Settings.Proofs.Element.BlockEntry
import Settings.Proofs.Element.Bounds
import Settings.Proofs.Element.Candor
import Settings.Proofs.Element.Censor
import Settings.Proofs.Element.Choices
import Settings.Proofs.Element.Closed
import Settings.Proofs.Element.DigitEntry
import Settings.Proofs.Element.Edges
import Settings.Proofs.Element.Evolution
import Settings.Proofs.Element.FinalNotices
import Settings.Proofs.Element.FixedPoint
import Settings.Proofs.Element.HostValue
import Settings.Proofs.Element.InPlace
import Settings.Proofs.Element.Kind
import Settings.Proofs.Element.Loading
import Settings.Proofs.Element.Marking
import Settings.Proofs.Element.Misreading
import Settings.Proofs.Element.Navigation
import Settings.Proofs.Element.Notices
import Settings.Proofs.Element.NumberField
import Settings.Proofs.Element.Omission
import Settings.Proofs.Element.OptionEntries
import Settings.Proofs.Element.Rereading
import Settings.Proofs.Element.Saving
import Settings.Proofs.Element.Stepping
import Settings.Proofs.Element.StringForm
import Settings.Proofs.Element.Subscriptions
import Settings.Proofs.Element.TextCensor
import Settings.Proofs.Element.TextDisplay
import Settings.Proofs.Element.TextField
import Settings.Proofs.Element.Toggling
import Settings.Proofs.Element.Typing
import Settings.Proofs.InPlace
import Settings.Proofs.Keyed
import Settings.Proofs.Numeral
import Settings.Proofs.Storage
import Settings.Proofs.Stored.Codec
import Settings.Proofs.Stored.Compact
import Settings.Proofs.Stored.Key
import Settings.Proofs.Stored.KeyOrder
import Settings.Proofs.Stored.Leaves
import Settings.Proofs.Stored.Line
import Settings.Proofs.Stored.Normal
import Settings.Proofs.Stored.Order
import Settings.Proofs.Stored.Overwriting
import Settings.Proofs.Stored.Path
import Settings.Proofs.Stored.Writing
import Settings.Proofs.Text
import Settings.Proofs.Tool
import Settings.Proofs.Tree.Attaching
import Settings.Proofs.Tree.Detaching
import Settings.Proofs.Tree.Keys
import Settings.Proofs.Tree.LateBinding
import Settings.Proofs.Tree.Omission
import Settings.Proofs.Tree.Operation
import Settings.Proofs.Tree.Reading
import Settings.Proofs.Tree.Refusal
import Settings.Proofs.Tree.Removal
import Settings.Proofs.Tree.Rereading
import Settings.Proofs.Tree.RoundTrip
import Settings.Proofs.Tree.TextFields
import Settings.Proofs.Tree.Throughout
import Settings.Proofs.Tree.Unclaimed
import Settings.Proofs.Tree.Writing
import Settings.Proofs.Value
import Settings.SettingsFile
import Settings.Storage
import Settings.Stored.Basic
import Settings.Stored.KeyOrder
import Settings.Stored.Line
import Settings.Stored.Printer
import Settings.Text.Blank
import Settings.Text.CharRange
import Settings.Text.LowerCase
import Settings.Text.Quoted
import Settings.Text.Split
import Settings.Text.Table.CaseIgnorable
import Settings.Text.Table.Cased
import Settings.Text.Table.Extending
import Settings.Text.Table.LowerCase
import Settings.Text.Table.Unprintable
import Settings.Tool.Arguments
import Settings.Tool.Config
import Settings.Tool.Run
import Settings.Tree
import Settings.Value.Basic
import Settings.Value.Printer
