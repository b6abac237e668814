import SpotCheck.Boundary.Arguments
import SpotCheck.Boundary.Library
import SpotCheck.Bundle
import SpotCheck.Bytes
import SpotCheck.Challenges
import SpotCheck.Circuit
import SpotCheck.Command.Arguments
import SpotCheck.Command.Report
import SpotCheck.Command.Run
import SpotCheck.Digest
import SpotCheck.Fault
import SpotCheck.Fibonacci.Circuit
import SpotCheck.Fibonacci.Session
import SpotCheck.Field
import SpotCheck.Files
import SpotCheck.Hex
import SpotCheck.Json.Parser
import SpotCheck.Json.Record
import SpotCheck.Json.Value
import SpotCheck.Keccak.Permutation
import SpotCheck.Key.Basic
import SpotCheck.Key.Codec
import SpotCheck.LogFilter
import SpotCheck.Main
import SpotCheck.Merkle
import SpotCheck.Pattern.CharacterSet
import SpotCheck.Pattern.Element
import SpotCheck.Pattern.Nesting
import SpotCheck.PolynomialCircuit
import SpotCheck.Proof.Basic
import SpotCheck.Proof.Decode
import SpotCheck.Proof.Layout
import SpotCheck.Proofs.Boundary.Accounting
import SpotCheck.Proofs.Boundary.Diagnostics
import SpotCheck.Proofs.Boundary.Effect
import SpotCheck.Proofs.Boundary.History
import SpotCheck.Proofs.Boundary.Isolation
import SpotCheck.Proofs.Boundary.Outputs
import SpotCheck.Proofs.Bundle
import SpotCheck.Proofs.Command.Bundles
import SpotCheck.Proofs.Command.Calls
import SpotCheck.Proofs.Command.Steps
import SpotCheck.Proofs.Completeness
import SpotCheck.Proofs.Composition
import SpotCheck.Proofs.Fibonacci.Constraints
import SpotCheck.Proofs.Fibonacci.Detached
import SpotCheck.Proofs.Fibonacci.Interleaving
import SpotCheck.Proofs.Fibonacci.Session
import SpotCheck.Proofs.Fibonacci.Statement
import SpotCheck.Proofs.Fibonacci.Witness
import SpotCheck.Proofs.Field.Arithmetic
import SpotCheck.Proofs.Field.Prime
import SpotCheck.Proofs.Field.Reduction
import SpotCheck.Proofs.Field.Residue
import SpotCheck.Proofs.Files
import SpotCheck.Proofs.Hex
import SpotCheck.Proofs.Json.RoundTrip
import SpotCheck.Proofs.Json.Tokens
import SpotCheck.Proofs.Key
import SpotCheck.Proofs.Key.Codec
import SpotCheck.Proofs.Key.LongerStrings
import SpotCheck.Proofs.Key.Origin
import SpotCheck.Proofs.Key.RowWeights
import SpotCheck.Proofs.Key.SampledRows
import SpotCheck.Proofs.Malleability
import SpotCheck.Proofs.Merkle.Binding
import SpotCheck.Proofs.Merkle.Heap
import SpotCheck.Proofs.Merkle.Levels
import SpotCheck.Proofs.Merkle.Membership
import SpotCheck.Proofs.Merkle.Opening
import SpotCheck.Proofs.Proof.Codec
import SpotCheck.Proofs.Proof.Positions
import SpotCheck.Proofs.Proving
import SpotCheck.Proofs.Proving.Refusals
import SpotCheck.Proofs.ReferenceString.Caching
import SpotCheck.Proofs.ReferenceString.File
import SpotCheck.Proofs.ReferenceString.Prefix
import SpotCheck.Proofs.ReferenceString.Progression
import SpotCheck.Proofs.ReferenceString.Provider
import SpotCheck.Proofs.ReferenceString.Search
import SpotCheck.Proofs.ReferenceString.Validation
import SpotCheck.Proofs.Sampling
import SpotCheck.Proofs.Sampling.FirstAppearances
import SpotCheck.Proofs.Session.Courses
import SpotCheck.Proofs.Session.FaultCapture
import SpotCheck.Proofs.Session.Interleaving
import SpotCheck.Proofs.Session.LiveCount
import SpotCheck.Proofs.Session.Runs
import SpotCheck.Proofs.Soundness
import SpotCheck.Proofs.Statement
import SpotCheck.Proofs.Steps
import SpotCheck.Proofs.Text
import SpotCheck.Proofs.Trace
import SpotCheck.Proofs.Transcript.Binding
import SpotCheck.Proofs.Verdict
import SpotCheck.Proofs.Verification
import SpotCheck.Proving
import SpotCheck.ProvingContext
import SpotCheck.ProvingError
import SpotCheck.PublicInputs
import SpotCheck.ReferenceString.Basic
import SpotCheck.ReferenceString.File
import SpotCheck.ReferenceString.Provider
import SpotCheck.Session.Ledger
import SpotCheck.Session.Lifecycle
import SpotCheck.Text.Alphabetic
import SpotCheck.Text.Blank
import SpotCheck.Text.Class
import SpotCheck.Text.Cut
import SpotCheck.Text.GraphemeExtend
import SpotCheck.Text.Numeric
import SpotCheck.Text.Quoted
import SpotCheck.Text.Ranges
import SpotCheck.Text.Unprintable
import SpotCheck.Text.Utf8
import SpotCheck.Trace
import SpotCheck.Transcript
import SpotCheck.Verification
import SpotCheck.Word
