import VmAdmission.Text.GraphemeExtend
import VmAdmission.Text.Printable

/-!
# Quoted text

How a message shows a text that may hold anything: in double quotes, on one line, with every
character that would not show written as an escape. A single quote stands for itself.
-/

namespace VmAdmission.Text

/-- The escape that names a character by its code point, in lower-case hexadecimal. -/
def codePointEscape (c : Char) : List Char :=
  ['\\', 'u', '{'] ++ Nat.toDigits 16 c.toNat ++ ['}']

/-- A character as it stands between double quotes. -/
def quotedChar (c : Char) : List Char :=
  match c with
  | '"' => ['\\', '"']
  | '\\' => ['\\', '\\']
  | '\n' => ['\\', 'n']
  | '\r' => ['\\', 'r']
  | '\t' => ['\\', 't']
  | '\x00' => ['\\', '0']
  | c => if isGraphemeExtend c || !isPrintable c then codePointEscape c else [c]

/-- A text in double quotes. -/
def quoted (text : String) : String :=
  .ofList ('"' :: text.toList.flatMap quotedChar ++ ['"'])

end VmAdmission.Text
