import Sheetwise.Bridge.Application
import Sheetwise.Codec.Message
import Sheetwise.Codec.Reported
import Sheetwise.Codec.Sheet
import Sheetwise.Extraction.Run
import Sheetwise.Json.Reader
import Sheetwise.Json.Writer
import Sheetwise.Numbering
import Sheetwise.Output
import Sheetwise.Package.Source
import Sheetwise.Proofs.AllOrNothing
import Sheetwise.Proofs.Containment
import Sheetwise.Proofs.Contribution
import Sheetwise.Proofs.Exchange
import Sheetwise.Proofs.Named
import Sheetwise.Proofs.Ownership
import Sheetwise.Proofs.Placement
import Sheetwise.Proofs.Reading
import Sheetwise.Proofs.Run
import Sheetwise.Proofs.Worksheet
import Sheetwise.Reported.Charts
import Sheetwise.Reported.Graphics
import Sheetwise.Reported.Grid
import Sheetwise.Reported.Pages
import Sheetwise.Proofs.Merging
import Sheetwise.Proofs.Regions
import Sheetwise.Proofs.Spelling
import Sheetwise.Proofs.Detection
import Sheetwise.Proofs.Exact
import Sheetwise.Proofs.Edges
import Sheetwise.Proofs.Reaching
import Sheetwise.Proofs.Rebasing
import Sheetwise.Proofs.SheetSizes
import Sheetwise.Proofs.Numerals
import Sheetwise.Proofs.Series
import Sheetwise.Proofs.Rows
import Sheetwise.Proofs.Checked
import Sheetwise.Proofs.Viewing
import Sheetwise.Proofs.Making
import Sheetwise.Proofs.Sizes
import Sheetwise.Proofs.Forests
import Sheetwise.Proofs.Lifecycle
import Sheetwise.Proofs.Attribution
import Sheetwise.Proofs.Wire
import Sheetwise.Proofs.Pages
import Sheetwise.Proofs.Listing
import Sheetwise.Proofs.Saved
import Sheetwise.Proofs.RichText
import Sheetwise.Proofs.CellText
import Sheetwise.Proofs.Seeing
import Sheetwise.Proofs.Moving
import Sheetwise.Proofs.Representation
import Sheetwise.Proofs.WholeParts
import Sheetwise.Proofs.Totality
import Sheetwise.Proofs.Clusters
import Sheetwise.Proofs.Literals
import Sheetwise.Proofs.StyleSections
import Sheetwise.Proofs.StyleColors
import Sheetwise.Proofs.Nesting
import Sheetwise.Proofs.ForeignStyles
import Sheetwise.Proofs.Belonging
import Sheetwise.Proofs.Painting
import Sheetwise.Proofs.References
import Sheetwise.Proofs.Endpoints
import Sheetwise.Proofs.Escapes
import Sheetwise.Proofs.Items
import Sheetwise.Proofs.Numbers
import Sheetwise.Proofs.Shares
import Sheetwise.Proofs.Lossless
import Sheetwise.Proofs.Calendar
import Sheetwise.Proofs.Rounding
import Sheetwise.Proofs.DateTexts
import Sheetwise.Proofs.SerialDates
import Sheetwise.Proofs.Moments
import Sheetwise.Proofs.Scans
import Sheetwise.Proofs.Addresses
import Sheetwise.Proofs.Changes
import Sheetwise.Proofs.Paths
import Sheetwise.Proofs.Decimals
import Sheetwise.Proofs.JsonNumbers
import Sheetwise.Proofs.JsonText
import Sheetwise.Proofs.SavedText
