import NarrativeScript.Dice.Prepared
import NarrativeScript.Service.Reply
import NarrativeScript.Proofs.Token
import NarrativeScript.Proofs.TokenRun
import NarrativeScript.Proofs.Action
import NarrativeScript.Proofs.Descent
import NarrativeScript.Proofs.Atomicity
import NarrativeScript.Proofs.Magnitude
import NarrativeScript.Proofs.Overflow
import NarrativeScript.Proofs.Authored
import NarrativeScript.Proofs.ServerError
import NarrativeScript.Proofs.Footprint
import NarrativeScript.Proofs.FalseEntries
import NarrativeScript.Proofs.Sequence
import NarrativeScript.Proofs.Limit
import NarrativeScript.Proofs.Observation
import NarrativeScript.Proofs.Exactness
import NarrativeScript.Proofs.Commutation
import NarrativeScript.Proofs.Dispatch
import NarrativeScript.Proofs.Resending
import NarrativeScript.Proofs.Journal
import NarrativeScript.Proofs.Provenance
import NarrativeScript.Proofs.Rolls
import NarrativeScript.Proofs.Layout
import NarrativeScript.Proofs.Unquoting
import NarrativeScript.Proofs.OneLine
import NarrativeScript.Proofs.TermLanguage
import NarrativeScript.Proofs.LastPair
import NarrativeScript.Proofs.Clause
import NarrativeScript.Proofs.Nesting
import NarrativeScript.Proofs.Counter
import NarrativeScript.Proofs.PlainDecimal
import NarrativeScript.Proofs.Equality
import NarrativeScript.Proofs.Ordering
import NarrativeScript.Proofs.Literal
import NarrativeScript.Proofs.Calls
