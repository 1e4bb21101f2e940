import VersionOrder.Fault
import VersionOrder.Numeral
import VersionOrder.Padded
import VersionOrder.Text.Case
import VersionOrder.Text.Runs

/-!
# Comparing build parts

A build part is read as the letter-and-digit runs in it. Numbers come before words, numbers compare
by magnitude and words without regard to case; of two sequences that agree as far as they go, the
shorter comes first.

## Main definitions

- `BuildToken`: a number or a word of a build part
- `BuildToken.read`: the tokens of a build part
- `compareBuilds`: the comparison of two build parts
-/

namespace VersionOrder

/-- A number or a word of a build part. -/
inductive BuildToken where
  | number (value : Nat)
  | word (text : Text)
  deriving DecidableEq, Repr

/-- The number that a digit run writes; a run past the limit is refused. -/
def readNumber (digits : Text) : Except Fault Nat :=
  match Numeral.read? digits with
  | some n => .ok n
  | none => .error (.refusal (.tooManyDigits digits.length))

namespace BuildToken

/-- The token that a run of letters and digits writes. -/
def ofRun (run : Text) : Except Fault BuildToken :=
  if run.all Char.isDigit then return .number (← readNumber run) else return .word run

/-- The letter-and-digit runs of a text. -/
def runsOf (s : Text) : List Text :=
  ((Text.runs Char.isAlphanum s).filter Prod.fst).map Prod.snd

/-- The tokens of a build part. -/
def read (s : Text) : Except Fault (List BuildToken) :=
  (runsOf s).mapM ofRun

/-- The comparison of two tokens. -/
def compare : BuildToken → BuildToken → Int
  | .number m, .number n => signum m n
  | .number _, .word _ => -1
  | .word _, .number _ => 1
  | .word s, .word t => Text.compare (Text.lower s) (Text.lower t)

/-- The comparison of two token sequences: the first difference, else the length. -/
def compareAll : List BuildToken → List BuildToken → Int
  | [], [] => 0
  | [], _ :: _ => -1
  | _ :: _, [] => 1
  | a :: left, b :: right =>
    let result := compare a b
    if result = 0 then compareAll left right else result

end BuildToken

/-- The comparison of two build parts. A missing part comes first; the tokens are read only if both
parts are there. -/
def compareBuilds (left right : Text) : Except Fault Int :=
  match left, right with
  | [], [] => .ok 0
  | [], _ :: _ => .ok (-1)
  | _ :: _, [] => .ok 1
  | _ :: _, _ :: _ => do
    let leftTokens ← BuildToken.read left
    let rightTokens ← BuildToken.read right
    return BuildToken.compareAll leftTokens rightTokens

end VersionOrder
