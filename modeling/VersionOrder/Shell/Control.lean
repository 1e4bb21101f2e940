import VersionOrder.Text.Blank

/-!
# Control sequences

A control sequence colours or moves what a terminal shows: the escape character, an opening bracket,
digits, semicolons and question marks, and a letter. Texts are printed without them.
-/

namespace VersionOrder

namespace Text

/-- Whether a character may stand between the bracket and the letter of a control sequence. -/
def isControlParameter (c : Char) : Bool :=
  c = ';' || c = '?' || c.isDigit

/-- How many characters of a text belong to the control sequence that an escape character before it
starts; none if there is no such sequence. -/
def controlLength : Text → Nat
  | '[' :: rest =>
    match rest.dropWhile isControlParameter with
    | final :: _ => if final.isAlpha then (rest.takeWhile isControlParameter).length + 2 else 0
    | [] => 0
  | _ => 0

/-- A text without its first `skip` characters and without control sequences. -/
def dropControls (skip : Nat) : Text → Text
  | [] => []
  | c :: rest =>
    match skip with
    | skip + 1 => dropControls skip rest
    | 0 =>
      let length := if c = '\x1b' then controlLength rest else 0
      if length = 0 then c :: dropControls 0 rest else dropControls length rest

/-- A text without control sequences. -/
def withoutControls (s : Text) : Text :=
  dropControls 0 s

end Text

end VersionOrder
