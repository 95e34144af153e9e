import GuidedJson.Binding.Matcher
import GuidedJson.Binding.Script
import GuidedJson.Generation.Predictor
import GuidedJson.Json.Ascii
import GuidedJson.Main
import GuidedJson.Pattern.Nesting
import GuidedJson.Proofs.Decoding.Loop
import GuidedJson.Proofs.Schema.Exactness
import GuidedJson.Vocabulary.Document
import GuidedJson.Proofs.Grammar.Masks
import GuidedJson.Proofs.Vocabulary.Fingerprint
import GuidedJson.Proofs.Cache
import GuidedJson.Proofs.Schema.Lengths
import GuidedJson.Proofs.Pattern.Ample
import GuidedJson.Proofs.Automaton.Covers
import GuidedJson.Proofs.Text.Beginnings
import GuidedJson.Proofs.Automaton.Viability
import GuidedJson.Proofs.Schema.Viability
import GuidedJson.Proofs.Generation.Completion
import GuidedJson.Proofs.Grammar.Outcomes
import GuidedJson.Proofs.Schema.Canonical
import GuidedJson.Proofs.Schema.Joined
import GuidedJson.Proofs.Schema.RoundTrip
import GuidedJson.Proofs.Schema.Restored
import GuidedJson.Proofs.Schema.Parsed
import GuidedJson.Proofs.Schema.NormalForm
import GuidedJson.Proofs.Failures
import GuidedJson.Proofs.Json.Sorting
import GuidedJson.Proofs.Schema.Legible
import GuidedJson.Proofs.Schema.Counted
import GuidedJson.Proofs.Grammar.Spelling
import GuidedJson.Proofs.Decoding.Histories
import GuidedJson.Proofs.Decoding.Batches
import GuidedJson.Proofs.Pattern.Bounds
import GuidedJson.Proofs.Pattern.Spoiled
import GuidedJson.Proofs.Schema.Spans
import GuidedJson.Proofs.Schema.Described
import GuidedJson.Proofs.Grammar.Described
import GuidedJson.Proofs.Grammar.Stopping
import GuidedJson.Proofs.Cache.Recency
import GuidedJson.Proofs.Vocabulary.Declared
import GuidedJson.Proofs.Vocabulary.Added
import GuidedJson.Proofs.Vocabulary.Decoding
import GuidedJson.Proofs.Vocabulary.Pieces
import GuidedJson.Proofs.Vocabulary.StopTokens
import GuidedJson.Proofs.Schema.Keywords
import GuidedJson.Proofs.Schema.Restrictions
import GuidedJson.Proofs.Schema.Reordered
import GuidedJson.Proofs.Mask.Packing
import GuidedJson.Proofs.Decoding.Masking
import GuidedJson.Proofs.Cache.Failing
import GuidedJson.Proofs.Command.Tracing
import GuidedJson.Proofs.Vocabulary.Alphabet
import GuidedJson.Proofs.Vocabulary.Named
import GuidedJson.Proofs.Grammar.Groups
import GuidedJson.Proofs.Binding.Diagnostics
import GuidedJson.Proofs.Grammar.Indexing
import GuidedJson.Proofs.Schema.Literals
import GuidedJson.Proofs.Text.Validity
