import StyleTrim.Main
import StyleTrim.Proofs.Accordions
import StyleTrim.Proofs.Agreement
import StyleTrim.Proofs.Batches
import StyleTrim.Proofs.Bookkeeping
import StyleTrim.Proofs.Branches
import StyleTrim.Proofs.Carousels
import StyleTrim.Proofs.CollapsedText
import StyleTrim.Proofs.ComponentTags
import StyleTrim.Proofs.Deliveries
import StyleTrim.Proofs.Endings
import StyleTrim.Proofs.Evidence
import StyleTrim.Proofs.Footprints
import StyleTrim.Proofs.Histories
import StyleTrim.Proofs.Layers
import StyleTrim.Proofs.Levels
import StyleTrim.Proofs.Lifecycle
import StyleTrim.Proofs.Literals
import StyleTrim.Proofs.NormalForms
import StyleTrim.Proofs.OutputNames
import StyleTrim.Proofs.Pages
import StyleTrim.Proofs.Questions
import StyleTrim.Proofs.Reissues
import StyleTrim.Proofs.Room
import StyleTrim.Proofs.SecondRun
import StyleTrim.Proofs.SelectorLists
import StyleTrim.Proofs.Separation
import StyleTrim.Proofs.Snapshots
import StyleTrim.Proofs.SpentNames
import StyleTrim.Proofs.Stability
import StyleTrim.Proofs.StyleBlocks
import StyleTrim.Proofs.Toolbars
import StyleTrim.Proofs.Values
import StyleTrim.Report.Reader
