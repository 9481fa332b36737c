import SymbolMarkup.CommandLine.Run
import SymbolMarkup.Main
import SymbolMarkup.Proofs.Written
import SymbolMarkup.Proofs.Rendering
import SymbolMarkup.Proofs.Policies
import SymbolMarkup.Proofs.Boundary
import SymbolMarkup.Proofs.Unambiguous
import SymbolMarkup.Proofs.Live
import SymbolMarkup.Proofs.Watch
import SymbolMarkup.Proofs.Stale
import SymbolMarkup.Proofs.Watching
import SymbolMarkup.Proofs.Separators
import SymbolMarkup.Proofs.Absent
import SymbolMarkup.Proofs.Session
import SymbolMarkup.Proofs.Disk
import SymbolMarkup.Proofs.Delivery
import SymbolMarkup.Proofs.OneShot
import SymbolMarkup.Proofs.Context
import SymbolMarkup.Proofs.Subtrees
import SymbolMarkup.Proofs.Reindent
import SymbolMarkup.Proofs.Joined
import SymbolMarkup.Proofs.Layout
import SymbolMarkup.Proofs.Normal
import SymbolMarkup.Proofs.Lines
import SymbolMarkup.Proofs.Visible
import SymbolMarkup.Proofs.Naming
import SymbolMarkup.Proofs.Quoted
import SymbolMarkup.Proofs.Parts
import SymbolMarkup.Proofs.Spelling
