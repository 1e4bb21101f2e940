import VersionOrder.Text.Runs

/-!
# Tokens of a version text

A version text, trimmed, is a sequence of maximal runs: runs of ASCII letters and digits, and
separators, which are runs of anything else. The two kinds alternate.

## Main definitions

- `Token`: a run with its kind
- `tokenize`: the tokens of a text
-/

namespace VersionOrder

/-- The kind of a token. -/
inductive TokenKind where
  | alphanumeric
  | separator
  deriving DecidableEq, Repr

/-- A run of characters of one kind. -/
structure Token where
  /-- What the characters of the run are. -/
  kind : TokenKind
  /-- The characters of the run. -/
  text : Text
  deriving DecidableEq, Repr

namespace TokenKind

/-- The kind of the run that a character belongs to. -/
def ofChar (c : Char) : TokenKind :=
  if c.isAlphanum then .alphanumeric else .separator

/-- The word for a kind. -/
def code : TokenKind → String
  | .alphanumeric => "alphanumeric"
  | .separator => "separator"

end TokenKind

/-- Whether a token consists of letters and digits. -/
def Token.isAlphanumeric (t : Token) : Bool :=
  t.kind = .alphanumeric

/-- The tokens of a text; blanks around it are ignored. -/
def tokenize (s : Text) : List Token :=
  (Text.runs TokenKind.ofChar (Text.trim s)).map fun (kind, text) => ⟨kind, text⟩

end VersionOrder
