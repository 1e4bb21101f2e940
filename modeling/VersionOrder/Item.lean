import VersionOrder.Numeral.Loose
import VersionOrder.Padded
import VersionOrder.Text.Quoted
import VersionOrder.Token

/-!
# Comparison items

What a version is compared by: the digit runs and letter runs of its tokens, separators left out
and trailing zeros dropped, so that `1.0.0` and `1` have the same items.

Two item sequences are compared place by place, the shorter one filled up with release markers:

| | number | qualifier | marker |
|---|---|---|---|
| number | by magnitude | number is greater | a zero ties, any other is greater |
| qualifier | number is greater | by the family | by the family |

## Main definitions

- `Item`: a number, a qualifier, or the end of a version
- `QualifierOrder`: how a family of schemes places qualifiers
- `Item.ofTokens`: the items of a version
- `Item.compareAll`: the comparison of two item sequences
-/

namespace VersionOrder

/-- One item of a version. -/
inductive Item where
  /-- A number. -/
  | numeric (value : Int)
  /-- A qualifier, as it is written. -/
  | qualifier (text : Text)
  /-- The end of a version. -/
  | releaseMarker
  deriving DecidableEq, Repr

/-- How a family of schemes places qualifiers. -/
structure QualifierOrder where
  /-- The comparison of two qualifiers. -/
  compare : Text → Text → Int
  /-- The comparison of a qualifier with the end of a version; negative if it comes before a plain
  release. -/
  compareToRelease : Text → Int

namespace Item

/-- The number that a digit run writes; a run too long to be read counts as zero. -/
def ofDigits (digits : Text) : Item :=
  .numeric ((Numeral.read? digits).getD 0 : Nat)

/-- The number that a loosely written numeral stands for; what is no numeral counts as zero. -/
def ofNumeral (s : Text) : Item :=
  .numeric ((Numeral.parse 10 s).toOption.getD 0)

/-- The digit runs of a text as numbers and the runs between them as qualifiers. -/
def ofRuns (s : Text) : List Item :=
  (Text.runs Char.isDigit s).map fun (digits, run) =>
    if digits then ofDigits run else .qualifier run

/-- Whether an item at the end of a version says nothing: a zero or a release marker. -/
def isNegligible : Item → Bool
  | .numeric n => n = 0
  | .qualifier _ => false
  | .releaseMarker => true

/-- The items up to the last one that says something. -/
def trimEnd (items : List Item) : List Item :=
  (items.reverse.dropWhile isNegligible).reverse

/-- Whether a token starts the build metadata of a semantic version: a separator with a plus
sign. -/
def startsBuild (t : Token) : Bool :=
  !t.isAlphanumeric && t.text.contains '+'

/-- The items of a token sequence, up to the build metadata if that is to be left out. -/
def ofTokens (leaveOutBuild : Bool) (tokens : List Token) : List Item :=
  let relevant := if leaveOutBuild then tokens.takeWhile fun t => !startsBuild t else tokens
  trimEnd ((relevant.filter Token.isAlphanumeric).flatMap fun t => ofRuns t.text)

/-- The comparison of an item with the end of a version. -/
def compareToMarker (order : QualifierOrder) : Item → Int
  | .numeric n => if n = 0 then 0 else 1
  | .qualifier q => order.compareToRelease q
  | .releaseMarker => 0

/-- The comparison of two items. -/
def compare (order : QualifierOrder) : Item → Item → Int
  | .numeric m, .numeric n => signum m n
  | .numeric _, .qualifier _ => 1
  | .qualifier _, .numeric _ => -1
  | .qualifier p, .qualifier q => order.compare p q
  | item, .releaseMarker => compareToMarker order item
  | .releaseMarker, item => -compareToMarker order item

/-- The comparison of two item sequences: the first place that differs decides. -/
def compareAll (order : QualifierOrder) (left right : List Item) : Int :=
  decisive ((zipPadded .releaseMarker left right).map fun (a, b) => compare order a b)

/-- The kind of an item in words. -/
def kind : Item → String
  | .numeric _ => "numeric"
  | .qualifier _ => "qualifier"
  | .releaseMarker => "release-marker"

/-- The written form of an item. -/
def display : Item → String
  | .numeric n => s!"Numeric({n})"
  | .qualifier q => s!"Qualifier({quoted (String.ofList q)})"
  | .releaseMarker => "ReleaseMarker"

end Item

end VersionOrder
