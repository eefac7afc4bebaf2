import RefPolicy.Text.HiddenTable
import RefPolicy.Text.LowerCase

/-!
# RefPolicy.Text.Quoted

Text between double quotes, written so that every character shows: quotes
and backslashes are preceded by a backslash, the common controls have short
forms, and other characters that do not show on their own are written by
their code point.
-/

namespace RefPolicy.Text

/-- Does a character need its code point to be seen? -/
def isHidden (c : Char) : Bool := inRanges hiddenRanges c.toNat

/-- One character inside quotes. -/
def quotedChar (c : Char) : List Char :=
  match c with
  | '\x00' => ['\\', '0']
  | '\t' => ['\\', 't']
  | '\n' => ['\\', 'n']
  | '\r' => ['\\', 'r']
  | '"' => ['\\', '"']
  | '\\' => ['\\', '\\']
  | c =>
    if isHidden c then ['\\', 'u', '\x7b'] ++ Nat.toDigits 16 c.toNat ++ ['\x7d'] else [c]

/-- A text between quotes. -/
def quoted (text : String) : String :=
  String.ofList ('"' :: (text.toList.flatMap quotedChar ++ ['"']))

end RefPolicy.Text
