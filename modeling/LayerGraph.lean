import LayerGraph.Console.Basic
import LayerGraph.Console.Highlight
import LayerGraph.Console.Layout
import LayerGraph.Console.Screen
import LayerGraph.Conversion.Basic
import LayerGraph.Data.Keyed
import LayerGraph.Failure.Basic
import LayerGraph.Failure.Class
import LayerGraph.Failure.Fault
import LayerGraph.Files.Path
import LayerGraph.Files.Tree
import LayerGraph.Graph.Basic
import LayerGraph.Graph.Defect
import LayerGraph.Graph.Order
import LayerGraph.Graph.Port
import LayerGraph.Journal.Basic
import LayerGraph.Json.Basic
import LayerGraph.Json.Printer
import LayerGraph.Json.Reader
import LayerGraph.Layer.Basic
import LayerGraph.Layer.Defect
import LayerGraph.Layer.Inference
import LayerGraph.Layer.Kind
import LayerGraph.Layer.Recipe
import LayerGraph.Literal.Grammar.Basic
import LayerGraph.Literal.Grammar.Expression
import LayerGraph.Literal.Grammar.Mistake
import LayerGraph.Literal.Quotation
import LayerGraph.Literal.Reader
import LayerGraph.Literal.Reading
import LayerGraph.Literal.Token
import LayerGraph.Literal.Tree
import LayerGraph.Literal.Value
import LayerGraph.Lowering.Context
import LayerGraph.Lowering.Defect
import LayerGraph.Lowering.Fragment
import LayerGraph.Lowering.Operator
import LayerGraph.Markup.Basic
import LayerGraph.Markup.Picture
import LayerGraph.Markup.Picture.Face
import LayerGraph.Markup.Picture.Scene
import LayerGraph.Markup.Picture.Sequence
import LayerGraph.Markup.Picture.Symbol
import LayerGraph.Markup.Style
import LayerGraph.Number.Binary
import LayerGraph.Number.Decimal
import LayerGraph.Number.Word
import LayerGraph.Program.Attribute
import LayerGraph.Program.Bindings
import LayerGraph.Program.Defect
import LayerGraph.Program.Descriptor
import LayerGraph.Program.Document
import LayerGraph.Program.Store
import LayerGraph.Proofs.Console.Calls
import LayerGraph.Proofs.Conversion.Agreement
import LayerGraph.Proofs.Conversion.Attribution
import LayerGraph.Proofs.Conversion.Confined
import LayerGraph.Proofs.Conversion.Outcome
import LayerGraph.Proofs.Conversion.Script
import LayerGraph.Proofs.Failure.Errors
import LayerGraph.Proofs.Failure.Faults
import LayerGraph.Proofs.Failure.Run
import LayerGraph.Proofs.Files.Inside
import LayerGraph.Proofs.Files.Path
import LayerGraph.Proofs.Files.Tree
import LayerGraph.Proofs.Graph.Border
import LayerGraph.Proofs.Graph.Calls
import LayerGraph.Proofs.Graph.Consistency
import LayerGraph.Proofs.Graph.Cycles
import LayerGraph.Proofs.Graph.Isomorphism
import LayerGraph.Proofs.Graph.Order
import LayerGraph.Proofs.Graph.Paths
import LayerGraph.Proofs.Graph.Ports
import LayerGraph.Proofs.Graph.Refused
import LayerGraph.Proofs.Graph.Shapes
import LayerGraph.Proofs.Journal.Script
import LayerGraph.Proofs.Json.Numerals
import LayerGraph.Proofs.Json.RoundTrip
import LayerGraph.Proofs.Layer.Broadcast
import LayerGraph.Proofs.Layer.Errors
import LayerGraph.Proofs.Layer.Faults
import LayerGraph.Proofs.Layer.Known
import LayerGraph.Proofs.Layer.Positions
import LayerGraph.Proofs.Layer.Reshape
import LayerGraph.Proofs.Layer.Unknown
import LayerGraph.Proofs.Layer.Windows
import LayerGraph.Proofs.Layer.Words
import LayerGraph.Proofs.Lowering.Accounts
import LayerGraph.Proofs.Lowering.Closed
import LayerGraph.Proofs.Lowering.Convolution
import LayerGraph.Proofs.Lowering.Errors
import LayerGraph.Proofs.Lowering.Faults
import LayerGraph.Proofs.Lowering.Form
import LayerGraph.Proofs.Lowering.Known
import LayerGraph.Proofs.Lowering.Weights
import LayerGraph.Proofs.Markup.Blunt
import LayerGraph.Proofs.Markup.Tagless
import LayerGraph.Proofs.Number.Ceiling
import LayerGraph.Proofs.Number.Nearest
import LayerGraph.Proofs.Number.Rounding
import LayerGraph.Proofs.Number.Shortest
import LayerGraph.Proofs.Program.Faults
import LayerGraph.Proofs.Program.Kinds
import LayerGraph.Proofs.Program.RoundTrip
import LayerGraph.Proofs.Settings.Broken
import LayerGraph.Proofs.Settings.Layering
import LayerGraph.Proofs.Settings.Load
import LayerGraph.Proofs.Settings.Nearest
import LayerGraph.Proofs.Settings.Stable
import LayerGraph.Proofs.Tensor.Cut
import LayerGraph.Proofs.Tensor.Decoded
import LayerGraph.Proofs.Tensor.Elements
import LayerGraph.Proofs.Tensor.Errors
import LayerGraph.Proofs.Tensor.Extents
import LayerGraph.Proofs.Tensor.Faults
import LayerGraph.Proofs.Tensor.Header
import LayerGraph.Proofs.Tensor.Names
import LayerGraph.Proofs.Tensor.Outcomes
import LayerGraph.Proofs.Tensor.RoundTrip
import LayerGraph.Proofs.Tensor.Spelled
import LayerGraph.Proofs.Tensor.Steps
import LayerGraph.Proofs.Tensor.Stops
import LayerGraph.Proofs.Tensor.View
import LayerGraph.Proofs.Tensor.Walk
import LayerGraph.Proofs.Text.Numerals
import LayerGraph.Proofs.Text.Utf8
import LayerGraph.Proofs.Validation.Exact
import LayerGraph.Proofs.Validation.Faults
import LayerGraph.Proofs.Wiring.Acyclic
import LayerGraph.Proofs.Wiring.Append
import LayerGraph.Proofs.Wiring.Arrangement
import LayerGraph.Proofs.Wiring.Binding
import LayerGraph.Proofs.Wiring.Blameless
import LayerGraph.Proofs.Wiring.Border
import LayerGraph.Proofs.Wiring.Boundary
import LayerGraph.Proofs.Wiring.Closing
import LayerGraph.Proofs.Wiring.Commuting
import LayerGraph.Proofs.Wiring.Composed
import LayerGraph.Proofs.Wiring.Consulted
import LayerGraph.Proofs.Wiring.Correspondence
import LayerGraph.Proofs.Wiring.Effects
import LayerGraph.Proofs.Wiring.Errors
import LayerGraph.Proofs.Wiring.Faults
import LayerGraph.Proofs.Wiring.Feeding
import LayerGraph.Proofs.Wiring.Fetching
import LayerGraph.Proofs.Wiring.Interior
import LayerGraph.Proofs.Wiring.Layout
import LayerGraph.Proofs.Wiring.Renumbering
import LayerGraph.Proofs.Wiring.Retry
import LayerGraph.Proofs.Wiring.Sequential
import LayerGraph.Proofs.Wiring.Shapes
import LayerGraph.Proofs.Wiring.Sites
import LayerGraph.Proofs.Wiring.Success
import LayerGraph.Proofs.Wiring.Supply
import LayerGraph.Proofs.Wiring.Threads
import LayerGraph.Proofs.Wiring.Turns
import LayerGraph.Proofs.Wiring.Unfailing
import LayerGraph.Proofs.Wiring.Versions
import LayerGraph.Proofs.Wiring.Wirable
import LayerGraph.Proofs.Wiring.Wired
import LayerGraph.Settings.Basic
import LayerGraph.Settings.Load
import LayerGraph.Shape
import LayerGraph.Tensor.Basic
import LayerGraph.Tensor.Contents
import LayerGraph.Tensor.Defect
import LayerGraph.Tensor.ElementType
import LayerGraph.Tensor.Payload
import LayerGraph.Tensor.Spelling
import LayerGraph.Tensor.Store
import LayerGraph.Tensor.TimeStep
import LayerGraph.Tensor.View
import LayerGraph.Text.ByteSize
import LayerGraph.Text.Case
import LayerGraph.Text.CharacterName
import LayerGraph.Text.CharacterName.AToB
import LayerGraph.Text.CharacterName.C
import LayerGraph.Text.CharacterName.DToF
import LayerGraph.Text.CharacterName.GToK
import LayerGraph.Text.CharacterName.LToM
import LayerGraph.Text.CharacterName.NToR
import LayerGraph.Text.CharacterName.S
import LayerGraph.Text.CharacterName.TToZ
import LayerGraph.Text.CodePoints
import LayerGraph.Text.Names
import LayerGraph.Text.Pattern
import LayerGraph.Text.Quoted
import LayerGraph.Text.Utf8
import LayerGraph.Text.Width
import LayerGraph.Text.Width.Ranges
import LayerGraph.Text.Words
import LayerGraph.Toml.Basic
import LayerGraph.Toml.Draft
import LayerGraph.Toml.Reader
import LayerGraph.Toml.Scalar
import LayerGraph.Validation.Coercion
import LayerGraph.Validation.Issue
import LayerGraph.Validation.Lax
import LayerGraph.Wiring.Basic
