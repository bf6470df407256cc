import DiceNotation.Main
import DiceNotation.Proofs.Parse
import DiceNotation.Proofs.Rolls
import DiceNotation.Proofs.Chains
import DiceNotation.Proofs.Rounds
import DiceNotation.Proofs.Numerals
import DiceNotation.Proofs.Validation
import DiceNotation.Proofs.Refusals
import DiceNotation.Proofs.FullForm
import DiceNotation.Proofs.Runs
import DiceNotation.Proofs.Suffixes
import DiceNotation.Proofs.Modifiers
import DiceNotation.Proofs.Truncation
import DiceNotation.Proofs.Bounds
import DiceNotation.Proofs.Overflow
import DiceNotation.Proofs.Budget
import DiceNotation.Proofs.Stream
import DiceNotation.Proofs.Json.Lines
import DiceNotation.Proofs.Json.Records
import DiceNotation.Proofs.Keeping
import DiceNotation.Proofs.TopFaces
import DiceNotation.Proofs.Dominance
import DiceNotation.Proofs.Complements
import DiceNotation.Proofs.ResultLines
import DiceNotation.Proofs.EventLog
import DiceNotation.Proofs.Clauses
import DiceNotation.Proofs.Fairness
