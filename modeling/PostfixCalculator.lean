import PostfixCalculator.Expr
import PostfixCalculator.Main
import PostfixCalculator.Postfix.Sorting
import PostfixCalculator.Proofs.Postfix.Value
import PostfixCalculator.Proofs.Token.Scanning
import PostfixCalculator.Session.Frame
import PostfixCalculator.Proofs.Token.Layout
import PostfixCalculator.Proofs.Token.Deferral
import PostfixCalculator.Proofs.Calculation
import PostfixCalculator.Proofs.Sentence
import PostfixCalculator.Proofs.Session.Editor
import PostfixCalculator.Proofs.Postfix.Policies
import PostfixCalculator.Proofs.Lockstep
import PostfixCalculator.Proofs.Postfix.Rereading
import PostfixCalculator.Proofs.CommandLine.Options
import PostfixCalculator.Proofs.Resubmission
import PostfixCalculator.Proofs.Expr.Alternation
import PostfixCalculator.Proofs.Expr.Derivation
import PostfixCalculator.Proofs.Acceptance
import PostfixCalculator.Proofs.Postfix.Earlier
import PostfixCalculator.Proofs.Postfix.Zeros
import PostfixCalculator.Proofs.Exactness
import PostfixCalculator.Proofs.Omission
import PostfixCalculator.Proofs.Postfix.Padding
import PostfixCalculator.Proofs.Postfix.Trees
import PostfixCalculator.Proofs.Refusal
import PostfixCalculator.Proofs.Postfix.Faults
import PostfixCalculator.Proofs.Failure
import PostfixCalculator.Proofs.Session.Frames
import PostfixCalculator.Proofs.FrontEnds
import PostfixCalculator.Proofs.Session.Legibility
import PostfixCalculator.Proofs.Postfix.Matching
import PostfixCalculator.Proofs.Postfix.Blocks
import PostfixCalculator.Proofs.Trailing
import PostfixCalculator.Proofs.Number.FixedPoint
import PostfixCalculator.Proofs.Reentry
import PostfixCalculator.Proofs.Rearrangement
import PostfixCalculator.Proofs.Supply
import PostfixCalculator.Proofs.Remainder
import PostfixCalculator.Proofs.Postfix.Format
import PostfixCalculator.Proofs.Token.Reading
import PostfixCalculator.Proofs.Cutting
import PostfixCalculator.Proofs.Retyping
import PostfixCalculator.Proofs.Number.Nearest
import PostfixCalculator.Proofs.Number.Decimal
import PostfixCalculator.Proofs.Number.ExactText
import PostfixCalculator.Proofs.Number.BothTexts
import PostfixCalculator.Proofs.Postfix.OneStack
import PostfixCalculator.Proofs.Number.Binary64
import PostfixCalculator.Proofs.Number.BothReadings
import PostfixCalculator.Proofs.Number.Places
