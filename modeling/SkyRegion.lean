import SkyRegion.CommonUnits.Expression
import SkyRegion.CommonUnits.Library
import SkyRegion.CommonUnits.Product
import SkyRegion.Definition.Basic
import SkyRegion.Definition.Property
import SkyRegion.Document
import SkyRegion.FileName
import SkyRegion.Frame
import SkyRegion.Image.Dialogue
import SkyRegion.Image.Query
import SkyRegion.Import.Basic
import SkyRegion.Import.File
import SkyRegion.Import.State
import SkyRegion.Issue
import SkyRegion.Line
import SkyRegion.Number.Fixed
import SkyRegion.Number.Floating
import SkyRegion.Number.Layout
import SkyRegion.Number.Machine
import SkyRegion.Number.Numeral
import SkyRegion.Number.Power
import SkyRegion.Number.Reading
import SkyRegion.Number.Remainder
import SkyRegion.Number.Rounding
import SkyRegion.Number.Shortest
import SkyRegion.Number.SquareRoot
import SkyRegion.Proofs.AngleText
import SkyRegion.Proofs.CoordinateImport
import SkyRegion.Proofs.Declination
import SkyRegion.Proofs.DelimiterBreaks
import SkyRegion.Proofs.Dialogue
import SkyRegion.Proofs.DividedText
import SkyRegion.Proofs.DocumentFaults
import SkyRegion.Proofs.Equality
import SkyRegion.Proofs.Excess
import SkyRegion.Proofs.FileImport
import SkyRegion.Proofs.ImportRun
import SkyRegion.Proofs.ImportStates
import SkyRegion.Proofs.LineByLine
import SkyRegion.Proofs.LineNumbers
import SkyRegion.Proofs.LineOutcomes
import SkyRegion.Proofs.LineStages
import SkyRegion.Proofs.LinearExchange
import SkyRegion.Proofs.NamedExport
import SkyRegion.Proofs.NormalForm
import SkyRegion.Proofs.NumberText
import SkyRegion.Proofs.NumeralToken
import SkyRegion.Proofs.Numerals
import SkyRegion.Proofs.Orientation
import SkyRegion.Proofs.PixelIndependence
import SkyRegion.Proofs.PixelReading
import SkyRegion.Proofs.PixelUnits
import SkyRegion.Proofs.PlacingTrace
import SkyRegion.Proofs.PointCounts
import SkyRegion.Proofs.PolygonPoints
import SkyRegion.Proofs.PropertyText
import SkyRegion.Proofs.QuantityExport
import SkyRegion.Proofs.QuietHeader
import SkyRegion.Proofs.ReadingStages
import SkyRegion.Proofs.RegionDocument
import SkyRegion.Proofs.Reimport
import SkyRegion.Proofs.Reprinting
import SkyRegion.Proofs.Rereading
import SkyRegion.Proofs.Returning
import SkyRegion.Proofs.Rounding
import SkyRegion.Proofs.Separators
import SkyRegion.Proofs.SettingsHeader
import SkyRegion.Proofs.ShapeReading
import SkyRegion.Proofs.SkyDeclarations
import SkyRegion.Proofs.SkyEllipse
import SkyRegion.Proofs.SkyExchange
import SkyRegion.Proofs.SkyText
import SkyRegion.Proofs.SpelledLine
import SkyRegion.Proofs.Spellings
import SkyRegion.Proofs.StoredTurn
import SkyRegion.Proofs.TextParts
import SkyRegion.Proofs.TokenGrammar
import SkyRegion.Proofs.Trimming
import SkyRegion.Proofs.UnitText
import SkyRegion.Proofs.Unplaced
import SkyRegion.Proofs.Utf8
import SkyRegion.Proofs.WholeNumber
import SkyRegion.Proofs.WholeText
import SkyRegion.Proofs.WriterStates
import SkyRegion.Proofs.WrittenAngle
import SkyRegion.Proofs.WrittenRegion
import SkyRegion.Quantity.Basic
import SkyRegion.Quantity.Library
import SkyRegion.Quantity.Reading
import SkyRegion.Quantity.Sexagesimal
import SkyRegion.Region.Basic
import SkyRegion.Region.Document
import SkyRegion.Report
import SkyRegion.Setback
import SkyRegion.Settings
import SkyRegion.Shape.Keyword
import SkyRegion.Shape.Placing
import SkyRegion.Shape.Reading
import SkyRegion.Sky.Coordinates
import SkyRegion.Sky.Direction
import SkyRegion.Sky.Header
import SkyRegion.Sky.Image
import SkyRegion.Sky.Orientation
import SkyRegion.Sky.Projection
import SkyRegion.Sky.Trigonometry
import SkyRegion.Style
import SkyRegion.Text.Basic
import SkyRegion.Text.Blank
import SkyRegion.Text.CodeRange
import SkyRegion.Text.Digit
import SkyRegion.Text.Lines
import SkyRegion.Text.LowerCase
import SkyRegion.Text.Printable
import SkyRegion.Text.Quoted
import SkyRegion.Text.Utf8
import SkyRegion.Text.Word
import SkyRegion.Token
import SkyRegion.Unit.Basic
import SkyRegion.Writer.Basic
import SkyRegion.Writer.Format
import SkyRegion.Writer.Session
