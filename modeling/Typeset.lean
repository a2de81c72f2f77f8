import Typeset.Main
import Typeset.Tree.Logged
import Typeset.Proofs.Kind
import Typeset.Proofs.DisplayMath.Layout
import Typeset.Proofs.DisplayMath.Slice
import Typeset.Proofs.DisplayMath.Scan
import Typeset.Proofs.DisplayMath.Splice
import Typeset.Proofs.DisplayMath.Locality
import Typeset.Proofs.DisplayMath.Idempotence
import Typeset.Proofs.DisplayMath.Declaration
import Typeset.Proofs.DisplayMath.Settled
import Typeset.Proofs.DisplayMath.Search
import Typeset.Proofs.Tree.Composition
import Typeset.Proofs.Tree.Texts
import Typeset.Proofs.Tree.Wrappers
import Typeset.Proofs.Tree.Listings
import Typeset.Proofs.Tree.Parsing
import Typeset.Proofs.Tree.Braces
import Typeset.Proofs.Tree.Unknown
import Typeset.Proofs.Tree.Weave
import Typeset.Proofs.Latex.Marks
import Typeset.Proofs.Tree.Environments
import Typeset.Proofs.Renderer.Replay
import Typeset.Proofs.Renderer.Steps
import Typeset.Proofs.Renderer.Log
import Typeset.Proofs.Command.Conversion
import Typeset.Proofs.Json.CutLiterals
import Typeset.Proofs.Json.CutSkipping
import Typeset.Proofs.Json.CutValues
import Typeset.Proofs.Json.CutCollections
import Typeset.Proofs.Tree.Truncation
import Typeset.Proofs.DisplayMath.Wrapping
import Typeset.Proofs.DisplayMath.Passes
import Typeset.Proofs.Json.Limits
import Typeset.Proofs.Tree.Levels
import Typeset.Proofs.Path
import Typeset.Proofs.Config
import Typeset.Proofs.Renderer.Answers
import Typeset.Proofs.Renderer.References
import Typeset.Proofs.Json.Exchanges
import Typeset.Proofs.Json.Integers
import Typeset.Proofs.Tree.Exchanges
import Typeset.Proofs.Tree.SectionLevels
