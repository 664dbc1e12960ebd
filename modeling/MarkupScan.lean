import MarkupScan.Editor.Session
import MarkupScan.Main
import MarkupScan.Proofs.CursorProgress
import MarkupScan.Proofs.EditorRanges
import MarkupScan.Proofs.ExitCodes
import MarkupScan.Proofs.Interleaving
import MarkupScan.Proofs.JsonDump
import MarkupScan.Proofs.PrintedPlaces
import MarkupScan.Proofs.Rendering
import MarkupScan.Proofs.SameReports
import MarkupScan.Proofs.EditingRuns
import MarkupScan.Proofs.OpenConstructs
import MarkupScan.Proofs.IllegalCharacters
import MarkupScan.Proofs.CarriageReturns
import MarkupScan.Proofs.Snippets
import MarkupScan.Proofs.TextDump
import MarkupScan.Proofs.StrictJson
import MarkupScan.Proofs.ArgumentOrder
import MarkupScan.Proofs.Precedence
import MarkupScan.Proofs.NearestNumbers
import MarkupScan.Proofs.OptionChannels
import MarkupScan.Proofs.ShortestDecimals
import MarkupScan.Proofs.WrittenNumbers
