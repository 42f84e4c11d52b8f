import SceneBridge.Adapter.Bridge
import SceneBridge.Adapter.Definition
import SceneBridge.Adapter.Factory
import SceneBridge.Adapter.Objects
import SceneBridge.Cell
import SceneBridge.Component.Objects
import SceneBridge.Component.Table
import SceneBridge.Convert.Coercion
import SceneBridge.Convert.Conversion
import SceneBridge.Convert.Objects
import SceneBridge.Convert.Plain
import SceneBridge.Datum.Arithmetic
import SceneBridge.Datum.Basic
import SceneBridge.Datum.Equal
import SceneBridge.Datum.Grid
import SceneBridge.Datum.Member
import SceneBridge.Datum.Printer
import SceneBridge.Datum.Truth
import SceneBridge.Doc.Block
import SceneBridge.Element.Batch
import SceneBridge.Element.Objects
import SceneBridge.Entries
import SceneBridge.Event.Listeners
import SceneBridge.Event.Source
import SceneBridge.Fault
import SceneBridge.Json.Reader
import SceneBridge.Library.Catalogue
import SceneBridge.Library.Elements
import SceneBridge.Library.Functions
import SceneBridge.Library.Numeric
import SceneBridge.Library.Scene
import SceneBridge.Library.Tables
import SceneBridge.Node.Links
import SceneBridge.Number.Binary
import SceneBridge.Number.Digits
import SceneBridge.Number.Numeral
import SceneBridge.Number.Style
import SceneBridge.Object.Arguments
import SceneBridge.Object.Callables
import SceneBridge.Object.Class
import SceneBridge.Object.Items
import SceneBridge.Object.Members
import SceneBridge.Object.Operation
import SceneBridge.Object.Operations
import SceneBridge.Object.Order
import SceneBridge.Object.Routines
import SceneBridge.Object.See
import SceneBridge.Object.Store
import SceneBridge.Object.Value
import SceneBridge.Proofs.BarSplits
import SceneBridge.Proofs.Brackets
import SceneBridge.Proofs.Memo
import SceneBridge.Proofs.Scans
import SceneBridge.Proofs.Spellings
import SceneBridge.Proofs.Trimming
import SceneBridge.Proofs.TypeForms
import SceneBridge.Proofs.TypeReadings
import SceneBridge.Proofs.TypeShapes
import SceneBridge.Proofs.TypeText
import SceneBridge.Reflect.Cache
import SceneBridge.Reflect.ClassView
import SceneBridge.Reflect.Extract
import SceneBridge.Reflect.Metadata
import SceneBridge.Reflect.Objects
import SceneBridge.Registry.Constructors
import SceneBridge.Registry.Key
import SceneBridge.Registry.Objects
import SceneBridge.Registry.Table
import SceneBridge.Scene.Cameras
import SceneBridge.Scene.Geometries
import SceneBridge.Scene.Linear
import SceneBridge.Scene.Materials
import SceneBridge.Scene.Nodes
import SceneBridge.Scene.Numeric
import SceneBridge.Scene.Shape
import SceneBridge.Script.ClassSpec
import SceneBridge.Script.Evaluate
import SceneBridge.Script.Report
import SceneBridge.Script.Run
import SceneBridge.Script.Start
import SceneBridge.Script.Step
import SceneBridge.Settings
import SceneBridge.Text.Blank
import SceneBridge.Text.Cut
import SceneBridge.Text.Digit
import SceneBridge.Text.Letter
import SceneBridge.Text.Outdent
import SceneBridge.Text.Printable
import SceneBridge.Text.Quoted
import SceneBridge.Text.Span
import SceneBridge.TypeExpr.Basic
import SceneBridge.TypeExpr.Brackets
import SceneBridge.TypeExpr.Grammar
import SceneBridge.TypeExpr.Memo
import SceneBridge.TypeExpr.Printer
import SceneBridge.Values.Build
import SceneBridge.Values.Colour
import SceneBridge.Proofs.TypeText
import SceneBridge.Proofs.Trace
import SceneBridge.Proofs.Choice
import SceneBridge.Proofs.AdapterSteps
import SceneBridge.Proofs.AdapterWorld
import SceneBridge.Proofs.AdapterRuns
import SceneBridge.Proofs.EventBridge
import SceneBridge.Proofs.Rounding
import SceneBridge.Proofs.Outcome
import SceneBridge.Proofs.Failures
import SceneBridge.Proofs.FailingConversions
import SceneBridge.Proofs.FlatChoices
import SceneBridge.Proofs.Batching
import SceneBridge.Proofs.AdapterLife
import SceneBridge.Proofs.Absence
import SceneBridge.Proofs.Disposal
import SceneBridge.Proofs.LastChange
import SceneBridge.Proofs.LeftOut
import SceneBridge.Proofs.GraphWorld
import SceneBridge.Proofs.Revival
import SceneBridge.Proofs.Recovery
import SceneBridge.Proofs.MemberKinds
import SceneBridge.Proofs.DocText
import SceneBridge.Proofs.NumericObjects
import SceneBridge.Proofs.NumberText
import SceneBridge.Proofs.ValueRoundTrip
import SceneBridge.Proofs.Following
import SceneBridge.Proofs.Readings
import SceneBridge.Proofs.ConstructorRuns
import SceneBridge.Proofs.ComponentRuns
import SceneBridge.Proofs.Extension
import SceneBridge.Proofs.Probes
import SceneBridge.Proofs.Inheritance
import SceneBridge.Proofs.HexColours
import SceneBridge.Proofs.ListTexts
import SceneBridge.Proofs.Reconversion
import SceneBridge.Proofs.PositionalSpellings
import SceneBridge.Proofs.ColourTexts
import SceneBridge.Proofs.ColourCodes
import SceneBridge.Proofs.FieldOrder
import SceneBridge.Proofs.AttributeWrites
import SceneBridge.Proofs.FreeingWorld
import SceneBridge.Proofs.RepeatedDisposal
import SceneBridge.Proofs.FailedDisposal
import SceneBridge.Proofs.HookWorld
import SceneBridge.Proofs.Hooks
import SceneBridge.Proofs.Registrations
import SceneBridge.Proofs.Delivery
import SceneBridge.Proofs.ToldNodes
import SceneBridge.Proofs.NodeOrder
import SceneBridge.Proofs.ReadableDocs
import SceneBridge.Proofs.DeclaredTypes
import SceneBridge.Proofs.ReflectionWorld
import SceneBridge.Proofs.RegistryKeys
import SceneBridge.Proofs.RegistryRuns
import SceneBridge.Proofs.TopLevelParts
import SceneBridge.Proofs.WrappedTypes
