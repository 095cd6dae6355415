import TypeConversion.Text.ExtendingMark
import TypeConversion.Text.Hex
import TypeConversion.Text.Ignorable
import TypeConversion.Text.Unprintable

/-!
# Quoted text

Text between double quotes, with an escape for each character that would end the quotes or would not
show by itself.

* `Quoted.text` quotes a text.
* `Quoted.isHidden` singles out the characters that do not show by themselves: those that are not
  printable, those that a display may leave out, and the marks that extend the character before
  them.
-/

namespace TypeConversion.Quoted

/-- Whether a character does not show by itself. -/
def isHidden (c : Char) : Bool :=
  Unprintable.isUnprintable c || Ignorable.isIgnorable c || ExtendingMark.isMark c

/-- A character between quotes. Those with a letter of their own are escaped by it, other hidden
ones by their code point. -/
def character (c : Char) : String :=
  match c with
  | '"' => "\\\""
  | '\\' => "\\\\"
  | '\n' => "\\n"
  | '\r' => "\\r"
  | '\t' => "\\t"
  | '\x00' => "\\0"
  | c =>
    if isHidden c then "\\u\x7b" ++ Hex.lower 1 c.toNat ++ "\x7d"
    else String.singleton c

/-- A text between quotes. -/
def text (s : String) : String :=
  "\"" ++ String.join (s.toList.map character) ++ "\""

end TypeConversion.Quoted
