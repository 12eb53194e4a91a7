import Collate.Check
import Collate.Leaf.Contexts
import Collate.Outcome.Sentinel
import Collate.Registers
import Collate.Specimen
import Collate.Proofs.Number.Truncation
import Collate.Proofs.Number.Widening
import Collate.Proofs.Number.Value
import Collate.Proofs.Number.Rounding
import Collate.Proofs.Number.Exact
import Collate.Proofs.Number.Split
import Collate.Proofs.Leaf.Number
import Collate.Proofs.Context
import Collate.Proofs.Leaf.Key
import Collate.Proofs.Sequence
import Collate.Proofs.Transitivity
import Collate.Proofs.Leaf.Reversal
import Collate.Proofs.Reversal
import Collate.Proofs.Agreement
import Collate.Proofs.Resolution
import Collate.Proofs.Isolation
import Collate.Proofs.Ty.Meeting
import Collate.Proofs.Incomparable
import Collate.Proofs.Text.Numeral
import Collate.Proofs.Text.Quoted
import Collate.Proofs.Legibility
import Collate.Proofs.Refinement
import Collate.Proofs.Reflection
import Collate.Proofs.Representation
import Collate.Proofs.Conservation
import Collate.Proofs.Chaining
import Collate.Proofs.Check
import Collate.Proofs.Exchange
import Collate.Proofs.TotalOrder
import Collate.Proofs.Lexicographic
import Collate.Proofs.Pointwise
import Collate.Proofs.Spelling
import Collate.Proofs.Tokens
