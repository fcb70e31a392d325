import Brokerage.Text.Unprintable

/-!
# Quoted texts

How a message shows a text it complains about: between quotation marks, so that its ends and its
invisible characters can be seen.

* `quoted`: the text as a message shows it.
-/

namespace Brokerage.Text

/-- One character between quotation marks: blanks that move the line, the mark and the escape sign
by a letter, what has no picture by its number. -/
def quotedChar (c : Char) : List Char :=
  match c with
  | '\x00' => ['\\', '0']
  | '\t' => ['\\', 't']
  | '\n' => ['\\', 'n']
  | '\r' => ['\\', 'r']
  | '"' => ['\\', '"']
  | '\\' => ['\\', '\\']
  | c =>
    if isUnprintable c then ['\\', 'u', '\x7b'] ++ Nat.toDigits 16 c.toNat ++ ['\x7d']
    else [c]

/-- The text between quotation marks. -/
def quoted (s : String) : String :=
  String.ofList (['"'] ++ s.toList.flatMap quotedChar ++ ['"'])

end Brokerage.Text
