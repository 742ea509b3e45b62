/-!
# Blanks, comments and line ends in TOML texts
-/

namespace VmAdmission.Toml

/-- Reads something from the front of a text, and returns the rest. -/
abbrev Reader (α : Type) := List Char → Option (α × List Char)

/-- A blank within a line. -/
def isBlank (c : Char) : Bool := c = ' ' || c = '\t'

/-- A character that may stand in a comment: anything but control characters, except the tab. -/
def isCommentChar (c : Char) : Bool :=
  c = '\t' || (0x20 ≤ c.toNat && c.toNat ≠ 0x7F)

/-- The text behind its blanks. -/
def skipBlanks (cs : List Char) : List Char := cs.dropWhile isBlank

/-- The text behind a line break; a carriage return counts only before a line feed. -/
def newLine? : List Char → Option (List Char)
  | '\n' :: rest => some rest
  | '\r' :: '\n' :: rest => some rest
  | _ => none

/-- The text behind the end of a line, which may have blanks and a comment before it. -/
def endLine? (cs : List Char) : Option (List Char) :=
  let cs := skipBlanks cs
  let cs :=
    match cs with
    | '#' :: rest => rest.dropWhile isCommentChar
    | _ => cs
  if cs.isEmpty then some [] else newLine? cs

/-- The text behind any blanks, line breaks and comments. -/
def skipVoid (inComment : Bool) : List Char → List Char
  | [] => []
  | '\n' :: rest => skipVoid false rest
  | '\r' :: '\n' :: rest => skipVoid false rest
  | c :: rest =>
    if inComment && isCommentChar c then skipVoid true rest
    else if isBlank c then skipVoid false rest
    else if c = '#' then skipVoid true rest
    else c :: rest

end VmAdmission.Toml
