import VersionOrder.Numeral
import VersionOrder.Text.Case
import VersionOrder.Text.Cut
import VersionOrder.Shell.Markup.EmojiTable

/-!
# Emoji by name

A name between two colons stands for a picture. The name may end with a hyphen and a word that asks
for the picture in colour or as text; a name that is not known stays as it is.

## Main definitions

- `Emoji.find?`: the picture with a name
- `Emoji.replace`: a text with pictures in place of their names
-/

namespace VersionOrder

namespace Emoji

/-- The characters that an entry of the table writes, if it is the entry of a name. -/
def pictureIn? (name entry : Text) : Option Text :=
  (Text.cutAt? ['='] entry).bind fun (known, codes) =>
    if known = name then
      some ((Text.splitAt '+' codes).map fun code => Char.ofNat (Numeral.valueIn 16 code))
    else
      none

/-- The picture with a name. -/
def find? (name : Text) : Option Text :=
  table.findSome? fun line => (Text.splitAt ' ' line.toList).findSome? (pictureIn? name)

/-- The words that ask for a variant of a picture, each with the character that selects it. -/
def variants : List (Text × Text) :=
  [("-emoji".toList, ['\uFE0F']), ("-text".toList, ['\uFE0E'])]

/-- What a name between colons is written with: the name, the variant asked for, and how many
characters they and the closing colon have. -/
structure Mention where
  name : Text
  variant : Text
  length : Nat

/-- The mention whose opening colon has been read: the name is as short as possible, and has no
blanks. -/
def mention? : Text → Option Mention
  | [] => none
  | c :: rest =>
    let s := c :: rest
    let variant? := variants.find? fun (word, _) => (word ++ [':']).isPrefixOf s
    match variant? with
    | some (word, variant) => some ⟨[], variant, word.length + 1⟩
    | none =>
      if c = ':' then some ⟨[], [], 1⟩
      else if Text.isBlank c then none
      else (mention? rest).map fun mention =>
        { mention with name := c :: mention.name, length := mention.length + 1 }

/-- A text without its first `skip` characters and with pictures in place of their names. -/
def replaceFrom (skip : Nat) : Text → Text
  | [] => []
  | c :: rest =>
    match skip with
    | skip + 1 => replaceFrom skip rest
    | 0 =>
      match if c = ':' then mention? rest else none with
      | none => c :: replaceFrom 0 rest
      | some mention =>
        let shown := match find? (Text.lower mention.name) with
          | some picture => picture ++ mention.variant
          | none => c :: rest.take mention.length
        shown ++ replaceFrom mention.length rest

/-- A text with pictures in place of their names. -/
def replace (s : Text) : Text :=
  replaceFrom 0 s

end Emoji

end VersionOrder
