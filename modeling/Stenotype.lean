import Stenotype.Main
import Stenotype.Proofs.AtomGrammar
import Stenotype.Proofs.Batches
import Stenotype.Proofs.Edit
import Stenotype.Proofs.ConditionalArguments
import Stenotype.Proofs.PathIndependence
import Stenotype.Proofs.Undo
import Stenotype.Proofs.Splitting
import Stenotype.Proofs.Effects
import Stenotype.Proofs.Reseeding
import Stenotype.Proofs.Predecessor
import Stenotype.Proofs.Delivery
import Stenotype.Proofs.Refusal
import Stenotype.Exchange
import Stenotype.Proofs.KeyGrammar
import Stenotype.Proofs.Exchange
import Stenotype.Proofs.Patches
import Stenotype.Proofs.Placement
import Stenotype.Proofs.Ink
import Stenotype.Proofs.Matching
import Stenotype.Proofs.Footing
import Stenotype.Proofs.Watch
import Stenotype.Proofs.Suffix
import Stenotype.Proofs.Segments
import Stenotype.Proofs.Printing
import Stenotype.Proofs.Removal
import Stenotype.Proofs.ShortestEdit
import Stenotype.Proofs.Transparent
import Stenotype.Proofs.Lockstep
import Stenotype.Proofs.Repaint
import Stenotype.Proofs.Spans
import Stenotype.Proofs.ModeRuns
import Stenotype.Proofs.Typings
import Stenotype.Proofs.LostFront
import Stenotype.Proofs.PlacementRuns
import Stenotype.Proofs.CapsMode
import Stenotype.Proofs.SeparatorMode
import Stenotype.Proofs.CaseBlind
import Stenotype.Proofs.Stems
import Stenotype.Proofs.CarriedCapitals
import Stenotype.Proofs.Chords
import Stenotype.Proofs.Language
import Stenotype.Proofs.RuleParts
import Stenotype.Proofs.Beginnings
import Stenotype.Proofs.Spelling
import Stenotype.Proofs.Plurals
import Stenotype.Proofs.Currency
import Stenotype.Proofs.NormalEdit
import Stenotype.Proofs.CommonFront
import Stenotype.Proofs.Recorded
import Stenotype.Proofs.LastWord
import Stenotype.Proofs.Joining
