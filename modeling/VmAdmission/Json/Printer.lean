import VmAdmission.Datum

/-!
# Writing JSON texts

Compact texts, and texts laid out with one item or member a line, two more blanks a level. What was
never a value, a moment or a damaged part, shows as `null`.
-/

namespace VmAdmission.Json

/-- A character as it stands in a JSON text between quotes. -/
def escapedChar (c : Char) : List Char :=
  match c with
  | '"' => ['\\', '"']
  | '\\' => ['\\', '\\']
  | '\x08' => ['\\', 'b']
  | '\x0c' => ['\\', 'f']
  | '\n' => ['\\', 'n']
  | '\r' => ['\\', 'r']
  | '\t' => ['\\', 't']
  | c =>
    if c.toNat < 0x20 then
      ['\\', 'u', '0', '0', (c.toNat / 16).digitChar, (c.toNat % 16).digitChar]
    else [c]

/-- A text between quotes. -/
def quote (s : String) : List Char := '"' :: s.toList.flatMap escapedChar ++ ['"']

/-- An integer's digits, behind a minus sign if it is negative. -/
def integer : Int → List Char
  | .ofNat n => Nat.toDigits 10 n
  | .negSucc n => '-' :: Nat.toDigits 10 (n + 1)

mutual

/-- The compact text of a datum. -/
def compact : Datum → List Char
  | .null | .moment | .damaged _ => ['n', 'u', 'l', 'l']
  | .bool true => ['t', 'r', 'u', 'e']
  | .bool false => ['f', 'a', 'l', 's', 'e']
  | .int n => integer n
  | .decimal literal => literal.toList
  | .text s => quote s
  | .list items => '[' :: compactItems items ++ [']']
  | .record members | .table members | .torn members _ => '{' :: compactMembers members ++ ['}']

/-- The compact texts of the items, with commas between them. -/
def compactItems : List Datum → List Char
  | [] => []
  | [item] => compact item
  | item :: items => compact item ++ ',' :: compactItems items

/-- The compact texts of the members, with commas between them. -/
def compactMembers : List (String × Datum) → List Char
  | [] => []
  | [(key, value)] => quote key ++ ':' :: compact value
  | (key, value) :: members => quote key ++ ':' :: compact value ++ ',' :: compactMembers members

end

/-- The start of a line at a level. -/
def newLine (level : Nat) : List Char := '\n' :: List.replicate (2 * level) ' '

mutual

/-- The text of a datum laid out in lines, where its own line stands at a level. -/
def layout (level : Nat) : Datum → List Char
  | .list (item :: items) =>
    '[' :: layoutItems (level + 1) (item :: items) ++ newLine level ++ [']']
  | .record (member :: members) | .table (member :: members) | .torn (member :: members) _ =>
    '{' :: layoutMembers (level + 1) (member :: members) ++ newLine level ++ ['}']
  | datum => compact datum

/-- The items laid out on lines of their own. -/
def layoutItems (level : Nat) : List Datum → List Char
  | [] => []
  | [item] => newLine level ++ layout level item
  | item :: items => newLine level ++ layout level item ++ ',' :: layoutItems level items

/-- The members laid out on lines of their own. -/
def layoutMembers (level : Nat) : List (String × Datum) → List Char
  | [] => []
  | [(key, value)] => newLine level ++ quote key ++ ':' :: ' ' :: layout level value
  | (key, value) :: members =>
    newLine level ++ quote key ++ ':' :: ' ' :: layout level value ++
      ',' :: layoutMembers level members

end

/-- The compact JSON text of a datum. -/
def render (datum : Datum) : String := .ofList (compact datum)

/-- The JSON text of a datum laid out in lines. -/
def renderLines (datum : Datum) : String := .ofList (layout 0 datum)

end VmAdmission.Json
