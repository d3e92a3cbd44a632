import Arith.Command
import Arith.Expr.Depth
import Arith.Expr.WellFormed
import Arith.Grammar
import Arith.Main
import Arith.Proofs.Alternation
import Arith.Proofs.Cut
import Arith.Proofs.Depth
import Arith.Proofs.Extent
import Arith.Proofs.Lookahead
import Arith.Proofs.Message
import Arith.Proofs.Position
import Arith.Proofs.Progress
import Arith.Proofs.Provenance
import Arith.Proofs.Readability
import Arith.Proofs.Relabel
import Arith.Proofs.RoundTrip
import Arith.Proofs.Sequence
import Arith.Proofs.Tally
import Arith.Proofs.Transcript
import Arith.Proofs.Traversal
import Arith.Session
import Arith.Spelling
