import FortranWriter.Host.World
import FortranWriter.Main
import FortranWriter.Proofs.Layout.FixedForm
import FortranWriter.Proofs.Layout.FreeForm
import FortranWriter.Proofs.Assembly.Labels
import FortranWriter.Proofs.Assembly.OnePass
import FortranWriter.Proofs.Assembly.Checks
import FortranWriter.Proofs.Assembly.Refusals
import FortranWriter.Proofs.Label.Yield
import FortranWriter.Proofs.Assembly.Acceptance
import FortranWriter.Proofs.Fragment.Nesting
import FortranWriter.Proofs.Layout.Nesting
import FortranWriter.Proofs.Layout.Shown
import FortranWriter.Proofs.Layout.Quotations
import FortranWriter.Proofs.Layout.Breaks
import FortranWriter.Proofs.Layout.Widths
import FortranWriter.Proofs.Layout.FullLines
import FortranWriter.Proofs.Fragment.Rendering
import FortranWriter.Proofs.Layout.FixedNesting
import FortranWriter.Proofs.Highlight.Segments
import FortranWriter.Proofs.Highlight.Rows
import FortranWriter.Proofs.Assembly.Fields
import FortranWriter.Proofs.Assembly.Columns
import FortranWriter.Proofs.Label.Order
import FortranWriter.Proofs.Assembly.Takes
import FortranWriter.Proofs.Assembly.Histories
import FortranWriter.Proofs.Files.Growth
import FortranWriter.Proofs.Delivery
import FortranWriter.Proofs.Run.Colours
import FortranWriter.Proofs.Listing.Banner
import FortranWriter.Proofs.Bound
import FortranWriter.Proofs.Highlight.Literals
import FortranWriter.Proofs.Highlight.Modes
import FortranWriter.Proofs.Layout.Spaces
import FortranWriter.Proofs.Assembly.Atomic
import FortranWriter.Proofs.Wording.Literals
import FortranWriter.Proofs.Wording.Separators
import FortranWriter.Proofs.Listing.Endings
import FortranWriter.Proofs.Listing.Encodings
import FortranWriter.Proofs.Report
import FortranWriter.Proofs.Bound.NormalForm
import FortranWriter.Proofs.Label.Calls
import FortranWriter.Proofs.Argument
