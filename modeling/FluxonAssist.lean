import FluxonAssist.Main
import FluxonAssist.SessionLog
import FluxonAssist.Domain.Mapping
import FluxonAssist.Domain.Name
import FluxonAssist.Proofs.StoreRun
import FluxonAssist.Proofs.Table
import FluxonAssist.Proofs.ScanCache
import FluxonAssist.Proofs.DocumentLines
import FluxonAssist.Proofs.Units
import FluxonAssist.Proofs.IncrementalEdit
import FluxonAssist.Proofs.Ascending
import FluxonAssist.Proofs.CatalogShape
import FluxonAssist.Proofs.CatalogDecode
import FluxonAssist.Proofs.CatalogParse
import FluxonAssist.Proofs.LineShape
import FluxonAssist.Proofs.CursorContext
import FluxonAssist.Proofs.RescanLog
import FluxonAssist.Proofs.RescanTiming
import FluxonAssist.Proofs.MergedIndex
import FluxonAssist.Proofs.OfferedArities
import FluxonAssist.Proofs.PathForms
import FluxonAssist.Proofs.ScannedLines
import FluxonAssist.Proofs.StorePath
import FluxonAssist.Proofs.DeclarationGrammar
import FluxonAssist.Proofs.ScanComposition
import FluxonAssist.Proofs.InsertedText
import FluxonAssist.Proofs.PositionBounds
import FluxonAssist.Proofs.PositionOrder
import FluxonAssist.Proofs.LoadOutcome
import FluxonAssist.Proofs.ByteOrder
import FluxonAssist.Proofs.RankedList
import FluxonAssist.Proofs.SnippetGrammar
import FluxonAssist.Proofs.CatalogNamespaces
import FluxonAssist.Proofs.FirstFlaw
import FluxonAssist.Proofs.SettingsScope
import FluxonAssist.Proofs.SettingsPayload
import FluxonAssist.Proofs.ArityText
