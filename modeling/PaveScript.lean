import PaveScript.Main
import PaveScript.Proofs.Accepted
import PaveScript.Proofs.Canonical.Condition
import PaveScript.Proofs.Canonical.Printable
import PaveScript.Proofs.Canonical.Scan
import PaveScript.Proofs.Canonical.Statement
import PaveScript.Proofs.Canonical.Word
import PaveScript.Proofs.Clause
import PaveScript.Proofs.Double.ReadBack
import PaveScript.Proofs.Excerpt
import PaveScript.Proofs.Grammar.Completeness
import PaveScript.Proofs.Grammar.Condition
import PaveScript.Proofs.Grammar.Gate
import PaveScript.Proofs.Grammar.Locality
import PaveScript.Proofs.Grammar.Soundness
import PaveScript.Proofs.Grammar.Statement
import PaveScript.Proofs.Literals
import PaveScript.Proofs.Placement
import PaveScript.Proofs.Problem.Scoping
import PaveScript.Proofs.Problem.Step
import PaveScript.Proofs.Reader
import PaveScript.Proofs.Recovery
import PaveScript.Proofs.RoundTrip
import PaveScript.Proofs.SafeInput
import PaveScript.Proofs.Scanned
import PaveScript.Proofs.Seam
import PaveScript.Proofs.Segment
import PaveScript.Proofs.Session.Calls
import PaveScript.Proofs.Session.Course
import PaveScript.Proofs.Session.Replay
import PaveScript.Proofs.Session.Stack
import PaveScript.Proofs.Session.Standing
import PaveScript.Proofs.Stability
import PaveScript.Proofs.Tiling
import PaveScript.World
import PaveScript.Proofs.Embedding
import PaveScript.Proofs.Session.Joined
import PaveScript.Proofs.Region
import PaveScript.Proofs.Session.Moments
import PaveScript.Proofs.Session.Account
import PaveScript.Proofs.Session.Quit
import PaveScript.Proofs.Problem.Records
import PaveScript.Proofs.Problem.InPlace
import PaveScript.Proofs.Problem.LetChain
import PaveScript.Proofs.Normalization
import PaveScript.Proofs.Smt.Grammar
import PaveScript.Proofs.Number.Pattern
import PaveScript.Proofs.Number.Whole
import PaveScript.Proofs.Cursor.Script
import PaveScript.Proofs.Grammar.Operands
import PaveScript.Proofs.Number.Longest
