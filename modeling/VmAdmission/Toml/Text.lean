import VmAdmission.Toml.Blank
import VmAdmission.Uuid

/-!
# Texts in TOML

A text stands between double quotes, with escapes, or between single quotes, without; between three
of them it may run over several lines. A line break in a text is a line feed, however it is written.
-/

namespace VmAdmission.Toml

/-- A character of a text that is no quote, no backslash and no control character except the tab. -/
def isPlain (c : Char) : Bool := isCommentChar c && c ≠ '"' && c ≠ '\\'

/-- A character between single quotes. -/
def isLiteral (c : Char) : Bool := isCommentChar c && c ≠ '\''

/-! ## Escapes -/

/-- The character that a one-letter escape stands for. -/
def escaped? : Char → Option Char
  | 'b' => some '\x08'
  | 't' => some '\t'
  | 'n' => some '\n'
  | 'f' => some '\x0c'
  | 'r' => some '\r'
  | '"' => some '"'
  | '\\' => some '\\'
  | _ => none

/-- The number that hexadecimal digits write. -/
def hexNumber? (cs : List Char) : Option Nat :=
  (cs.mapM Uuid.digitValue?).map (·.foldl (fun n d => 16 * n + d.val) 0)

/-- The character with the code point that hexadecimal digits write. -/
def codePoint? (cs : List Char) : Option Char := do
  let n ← hexNumber? cs
  if n < 0xD800 ∨ 0xDFFF < n ∧ n < 0x110000 then some (.ofNat n) else none

/-- A character in front of a text that was read. -/
def prepend (c : Char) : Option (List Char × List Char) → Option (List Char × List Char) :=
  Option.map fun (content, rest) => (c :: content, rest)

/-! ## Texts on one line -/

/-- Reads a text behind its opening double quote. -/
def readBasic : Reader (List Char)
  | [] => none
  | '"' :: rest => some ([], rest)
  | '\\' :: 'u' :: a :: b :: c :: d :: rest =>
    match codePoint? [a, b, c, d] with
    | some e => prepend e (readBasic rest)
    | none => none
  | '\\' :: 'U' :: a :: b :: c :: d :: e :: f :: g :: h :: rest =>
    match codePoint? [a, b, c, d, e, f, g, h] with
    | some e => prepend e (readBasic rest)
    | none => none
  | '\\' :: c :: rest =>
    match escaped? c with
    | some e => prepend e (readBasic rest)
    | none => none
  | c :: rest => if isPlain c then prepend c (readBasic rest) else none

/-- Reads a text behind its opening single quote. -/
def readLiteral : Reader (List Char)
  | [] => none
  | '\'' :: rest => some ([], rest)
  | c :: rest => if isLiteral c then prepend c (readLiteral rest) else none

/-! ## Texts over several lines -/

/-- The quotes, at most two, that belong to a text although they stand right before the closing
three, and the rest behind all of them. -/
def closingQuotes (quote : Char) : List Char → List Char × List Char
  | a :: b :: rest =>
    if a = quote then
      if b = quote then ([quote, quote], rest) else ([quote], b :: rest)
    else ([], a :: b :: rest)
  | [a] => if a = quote then ([quote], []) else ([], [a])
  | [] => ([], [])

/-- Reads a text of several lines behind its opening double quotes. While `trimming`, as behind a
backslash at the end of a line, blanks and line breaks are left out. -/
def readBasicLines (trimming : Bool) : Reader (List Char)
  | [] => none
  | '"' :: '"' :: '"' :: rest => some (closingQuotes '"' rest)
  | '"' :: rest => prepend '"' (readBasicLines false rest)
  | '\n' :: rest =>
    if trimming then readBasicLines true rest else prepend '\n' (readBasicLines false rest)
  | '\r' :: '\n' :: rest =>
    if trimming then readBasicLines true rest else prepend '\n' (readBasicLines false rest)
  | '\\' :: 'u' :: a :: b :: c :: d :: rest =>
    match codePoint? [a, b, c, d] with
    | some e => prepend e (readBasicLines false rest)
    | none => none
  | '\\' :: 'U' :: a :: b :: c :: d :: e :: f :: g :: h :: rest =>
    match codePoint? [a, b, c, d, e, f, g, h] with
    | some e => prepend e (readBasicLines false rest)
    | none => none
  | '\\' :: c :: rest =>
    if (newLine? (skipBlanks (c :: rest))).isSome then readBasicLines true (c :: rest)
    else
      match escaped? c with
      | some e => prepend e (readBasicLines false rest)
      | none => none
  | c :: rest =>
    if trimming && isBlank c then readBasicLines true rest
    else if isPlain c then prepend c (readBasicLines false rest)
    else none

/-- Reads a text of several lines behind its opening single quotes. -/
def readLiteralLines : Reader (List Char)
  | [] => none
  | '\'' :: '\'' :: '\'' :: rest => some (closingQuotes '\'' rest)
  | '\'' :: rest => prepend '\'' (readLiteralLines rest)
  | '\n' :: rest => prepend '\n' (readLiteralLines rest)
  | '\r' :: '\n' :: rest => prepend '\n' (readLiteralLines rest)
  | c :: rest => if isLiteral c then prepend c (readLiteralLines rest) else none

/-- The text behind a line break, if it starts with one. -/
def dropNewLine (cs : List Char) : List Char := (newLine? cs).getD cs

/-- Reads a text in any of its forms. -/
def readText? : Reader String
  | '"' :: '"' :: '"' :: rest =>
    (readBasicLines false (dropNewLine rest)).map fun (cs, rest) => (.ofList cs, rest)
  | '"' :: rest => (readBasic rest).map fun (cs, rest) => (.ofList cs, rest)
  | '\'' :: '\'' :: '\'' :: rest =>
    (readLiteralLines (dropNewLine rest)).map fun (cs, rest) => (.ofList cs, rest)
  | '\'' :: rest => (readLiteral rest).map fun (cs, rest) => (.ofList cs, rest)
  | _ => none

end VmAdmission.Toml
