import VersionOrder.Shell.Yaml.Stamp

/-!
# Tags

The tag of a node tells what kind of value it is. A plain scalar that has no tag of its own gets one
by its form: words for truth values and for nothing, whole and floating-point numbers in several
notations, dates and moments, and two marks with a meaning as keys. Every other scalar is a text.

## Main definitions

- `Yaml.Tag`: the tags
- `Yaml.Tag.ofName`: the tag with a name
- `Yaml.Tag.ofPlain`: the tag of a plain scalar, by its form
-/

namespace VersionOrder

namespace Yaml

/-- A tag. -/
inductive Tag where
  | null
  | boolean
  | integer
  | real
  | binary
  | moment
  | text
  | list
  | mapping
  | set
  /-- A list of pairs, called a map with an order. -/
  | orderedMap
  /-- A list of pairs. -/
  | pairs
  /-- The mark of a key whose value is merged into the mapping. -/
  | merge
  /-- The mark of a key that stands for the value of the mapping. -/
  | value
  /-- A tag without a meaning. -/
  | unknown
  deriving DecidableEq, Repr

namespace Tag

/-- What the names of all tags with a meaning start with. -/
def namespaceName : String := "tag:yaml.org,2002:"

/-- The tags with a meaning, by name. -/
def named : List (String × Tag) :=
  [("null", .null), ("bool", .boolean), ("int", .integer), ("float", .real), ("binary", .binary),
    ("timestamp", .moment), ("str", .text), ("seq", .list), ("map", .mapping), ("set", .set),
    ("omap", .orderedMap), ("pairs", .pairs), ("merge", .merge), ("value", .value)]

/-- The tag with a name. -/
def ofName (name : String) : Tag :=
  ((named.find? fun (short, _) => namespaceName ++ short = name).map Prod.snd).getD .unknown

/-- The words for truth values, in lower case. -/
def truthWords : List (String × Bool) :=
  [("yes", true), ("no", false), ("true", true), ("false", false), ("on", true), ("off", false)]

/-- A word in lower case, with a capital, and in upper case. -/
def spellings (word : String) : List Text :=
  [word.toList, word.capitalize.toList, word.toUpper.toList]

/-- Whether a text is a word for a truth value. -/
def isTruth (s : Text) : Bool :=
  truthWords.any fun (word, _) => (spellings word).contains s

/-- Whether a text is a word for nothing. -/
def isNull (s : Text) : Bool :=
  s = ['~'] || (spellings "null").contains s

/-- A text without the sign it may start with. -/
def unsigned (s : Text) : Text :=
  (Numeral.splitSign s).2

/-- Whether a character is a digit or an underscore. -/
def isDigitOrGap (c : Char) : Bool :=
  c.isDigit || c = '_'

/-- The text after a number in digits and underscores, whose first character is a digit from
`least` on. -/
def skipDigits? (least : Char) : Text → Option Text
  | c :: rest => if c.isDigit && least ≤ c then some (rest.dropWhile isDigitOrGap) else none
  | [] => none

/-- Whether a text is a signed power of ten, or nothing. -/
def isPower (s : Text) : Bool :=
  match s with
  | [] => true
  | mark :: sign :: digits =>
    (mark = 'e' || mark = 'E') && (sign = '+' || sign = '-') && !digits.isEmpty &&
      digits.all Char.isDigit
  | _ => false

/-- The text after some parts of a number in base sixty: each has a colon and one digit, or two of
which the first is at most five. -/
def skipSixties : Text → Text
  | ':' :: a :: b :: rest =>
    if a.isDigit && a ≤ '5' && b.isDigit then skipSixties rest
    else if a.isDigit then skipSixties (b :: rest)
    else ':' :: a :: b :: rest
  | [':', a] => if a.isDigit then [] else [':', a]
  | s => s

/-- The text after at least one part of a number in base sixty. -/
def skipSomeSixties? (s : Text) : Option Text :=
  let rest := skipSixties s
  if rest.length < s.length then some rest else none

/-- Whether a text is a floating-point number: with digits before the point, or without them and
then without a sign; in base sixty; or a word for infinity or for no number. -/
def isReal (s : Text) : Bool :=
  let isFraction (s : Text) : Bool :=
    match s with
    | '.' :: rest => isPower (rest.dropWhile isDigitOrGap)
    | _ => false
  let isSixtiesFraction (s : Text) : Bool :=
    match s with
    | '.' :: rest => rest.all isDigitOrGap
    | _ => false
  match s with
  | '.' :: rest =>
    (skipDigits? '0' rest).any isPower || ["inf", "Inf", "INF", "nan", "NaN", "NAN"].any fun word =>
      word.toList = rest
  | _ =>
    let body := unsigned s
    (skipDigits? '0' body).any isFraction ||
      ((skipDigits? '0' body).bind skipSomeSixties?).any isSixtiesFraction ||
      [".inf", ".Inf", ".INF"].any fun word => word.toList = body

/-- Whether a text is a whole number, in one of the bases two, eight, ten, sixteen and sixty. -/
def isInteger (s : Text) : Bool :=
  let all (base : Nat) (digits : Text) : Bool :=
    !digits.isEmpty && digits.all fun c => (Numeral.digitIn? base c).isSome || c = '_'
  match unsigned s with
  | '0' :: 'b' :: digits => all 2 digits
  | '0' :: 'x' :: digits => all 16 digits
  | ['0'] => true
  | '0' :: digits => all 8 digits
  | body =>
    match skipDigits? '1' body with
    | none => false
    | some rest => rest.isEmpty || (skipSomeSixties? rest).any List.isEmpty

/-- Whether a text is a date or moment. A date alone has two digits for month and day. -/
def isMoment (s : Text) : Bool :=
  (Stamp.read? s).any fun stamp => stamp.fullDate || stamp.time?.isSome

/-- The tag of a plain scalar by its form, with no regard to a line feed at its end. -/
def ofForm (s : Text) : Tag :=
  if isTruth s then .boolean
  else if isReal s then .real
  else if isInteger s then .integer
  else if s = ['<', '<'] then .merge
  else if isNull s then .null
  else if isMoment s then .moment
  else if s = ['='] then .value
  else if s = ['!'] || s = ['&'] || s = ['*'] then .unknown
  else .text

/-- A text without the line feed at its end. -/
def withoutLineEnd (s : Text) : Text :=
  if s.getLast? = some '\n' then s.dropLast else s

/-- The tag of a plain scalar. -/
def ofPlain (s : Text) : Tag :=
  if s.isEmpty then .null else ofForm (withoutLineEnd s)

end Tag

end Yaml

end VersionOrder
