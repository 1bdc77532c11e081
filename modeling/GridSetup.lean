import GridSetup.Binary.Format
import GridSetup.Binary.Value
import GridSetup.Choice
import GridSetup.Command.Arguments
import GridSetup.Command.Run
import GridSetup.Decimal.Integer
import GridSetup.Decimal.Layout
import GridSetup.Decimal.Literal
import GridSetup.Decimal.Shortest
import GridSetup.Defaults
import GridSetup.Error
import GridSetup.Files
import GridSetup.Grid.AxisSetting
import GridSetup.Grid.Extent
import GridSetup.Grid.Geometry
import GridSetup.Grid.Seed
import GridSetup.Grid.TimeStep
import GridSetup.Hierarchy
import GridSetup.Layers
import GridSetup.Main
import GridSetup.Output.Document
import GridSetup.Output.Json
import GridSetup.Output.Text
import GridSetup.Output.Yaml
import GridSetup.Parameter.Key
import GridSetup.Parameter.Line
import GridSetup.Parameter.Value
import GridSetup.Parameter.ValueType
import GridSetup.Parameters
import GridSetup.PerAxis
import GridSetup.Proofs.Parameter.Name
import GridSetup.Proofs.Parameter.Value
import GridSetup.Proofs.Table
import GridSetup.Proofs.Text.AsciiCase
import GridSetup.Proofs.Text.Blank
import GridSetup.Proofs.Text.LetterCase
import GridSetup.Proofs.Text.Lines
import GridSetup.Resolution
import GridSetup.Settings.Conversion
import GridSetup.Settings.Path
import GridSetup.Settings.Setting
import GridSetup.Table
import GridSetup.Text.Blank
import GridSetup.Text.CharSet
import GridSetup.Text.LetterCase
import GridSetup.Text.Lines
import GridSetup.Text.Word
import GridSetup.Toml.Date
import GridSetup.Toml.Document
import GridSetup.Toml.Token
import GridSetup.Proofs.Parameter.Line
import GridSetup.Proofs.Parameters.Entries
import GridSetup.Proofs.Resolution.Stages
import GridSetup.Proofs.Resolution.Checked
import GridSetup.Proofs.Resolution.Shape
import GridSetup.Proofs.Parameters.RoundTrip
import GridSetup.Proofs.Command.Settings
import GridSetup.Proofs.Parameters.Layout
import GridSetup.Proofs.Text.CaseFolding
import GridSetup.Proofs.Parameter.Grammar
import GridSetup.Proofs.Parameters.History
import GridSetup.Proofs.Parameters.Reading
import GridSetup.Proofs.Resolution.Footprint
import GridSetup.Proofs.Hierarchy.Edits
import GridSetup.Proofs.Resolution.Errors
import GridSetup.Proofs.Resolution.Beyond
import GridSetup.Proofs.Parameter.Number
import GridSetup.Proofs.Resolution.WrittenOut
import GridSetup.Proofs.Resolution.Precedence
import GridSetup.Proofs.Resolution.Groups
import GridSetup.Proofs.Layers
import GridSetup.Proofs.Resolution.Axes
import GridSetup.Proofs.Resolution.Demands
import GridSetup.Proofs.Resolution.Placement
import GridSetup.Proofs.Resolution.TimeStep
import GridSetup.Proofs.Resolution.IdleFactors
import GridSetup.Proofs.Binary.Count
import GridSetup.Proofs.Resolution.SinglePoint
import GridSetup.Proofs.Text.Words
import GridSetup.Proofs.Parameters.FirstWord
import GridSetup.Proofs.Parameters.ActiveThorns
import GridSetup.Proofs.Resolution.Centring
import GridSetup.Proofs.Parameters.Tidying
import GridSetup.Proofs.Parameters.KeyCase
import GridSetup.Proofs.Text.SameLetters
import GridSetup.Proofs.Parameters.Integers
import GridSetup.Proofs.Decimal.Shortest
import GridSetup.Proofs.Decimal.Layout
import GridSetup.Proofs.Output.Text
