import Chronicle.Data.Literal
import Chronicle.Main
import Chronicle.Proofs.Calendar.Normalize
import Chronicle.Proofs.Script.Answer
import Chronicle.Proofs.Script.Conservation
import Chronicle.Proofs.Script.FailedLines
import Chronicle.Timeline.Decode
import Chronicle.Proofs.Calendar.Succession
import Chronicle.Proofs.Calendar.Chronology
import Chronicle.Proofs.Timeline.Lanes
import Chronicle.Proofs.Script.Labels
import Chronicle.Proofs.Script.Composition
import Chronicle.Proofs.Text.Decimal
import Chronicle.Proofs.Calendar.CanonicalText
import Chronicle.Proofs.Data.Decode
import Chronicle.Proofs.Timeline.Admissible
import Chronicle.Proofs.Timeline.Data
import Chronicle.Proofs.Script.HeadTokens
import Chronicle.Proofs.Script.SpacedTokens
import Chronicle.Proofs.Script.EntityForm
import Chronicle.Proofs.Script.ReportData
import Chronicle.Proofs.Script.DeclaredLanes
import Chronicle.Proofs.Script.DescriptionCut
import Chronicle.Proofs.Script.ItemLine
import Chronicle.Proofs.Data.JsonText
import Chronicle.Proofs.Data.StableSort
import Chronicle.Proofs.Timeline.SortValue
import Chronicle.Proofs.Timeline.Order
import Chronicle.Proofs.Script.LineParts
import Chronicle.Proofs.Timeline.WellFormed
import Chronicle.Proofs.Script.EntityVerdict
import Chronicle.Proofs.Text.Split
import Chronicle.Proofs.Text.Quoted
import Chronicle.Proofs.Script.WellFormed
import Chronicle.Proofs.Script.Citation
import Chronicle.Proofs.Script.JointMessage
import Chronicle.Proofs.Text.Places
import Chronicle.Proofs.Script.LinkSpans
import Chronicle.Proofs.Script.PeeledTokens
import Chronicle.Proofs.Text.LinePlaces
import Chronicle.Proofs.Document.Passages
import Chronicle.Proofs.Document.BlockLines
import Chronicle.Proofs.Script.WikiLinks
import Chronicle.Proofs.Document.FenceLines
import Chronicle.Proofs.Document.PassageOrder
import Chronicle.Proofs.Document.Embedding
import Chronicle.Proofs.Locale.Display
import Chronicle.Proofs.Timeline.Dates
import Chronicle.Proofs.Script.Sigils
import Chronicle.Proofs.Timeline.Placement
import Chronicle.Proofs.Locale.Shown
import Chronicle.Proofs.Locale.Code
import Chronicle.Proofs.Script.PrintableMessages
import Chronicle.Proofs.Script.LineBreaks
import Chronicle.Proofs.Command.JsonView
import Chronicle.Proofs.Script.ItemLinks
