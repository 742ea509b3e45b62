import VmAdmission.Codec.Basic
import VmAdmission.Text.Magnitude

/-!
# Reading JSON texts

A JSON text is read into a tree. Where the text goes wrong the tree records the damage and reading
ends, so a codec that walks the tree meets the faults of a text in the order of the text. Numbers
beyond the floating-point range, lone surrogates and nesting beyond the limit are well formed but
stand for no value.
-/

namespace VmAdmission.Json

/-- The characters that may stand between the tokens. -/
def isBlank (c : Char) : Bool := c = ' ' || c = '\t' || c = '\n' || c = '\r'

/-- The number of lists and records that may be open at one place. -/
def nestingLimit : Nat := 127

/-- A datum and the text behind it; no text if the datum's own text went wrong. -/
abbrev Parsed (α : Type) := α × Option (List Char)

/-- A place where the text makes no sense. -/
def unreadable : Parsed Datum := (.damaged .unreadable, none)

/-! ## Texts -/

/-- The value of a hexadecimal digit in either case. -/
def hexValue? (c : Char) : Option Nat := (Uuid.digitValue? c).map Fin.val

/-- The number that four hexadecimal digits write. -/
def hex4? (a b c d : Char) : Option Nat := do
  return ((← hexValue? a) * 16 + (← hexValue? b)) * 256 + ((← hexValue? c) * 16 + (← hexValue? d))

/-- The character that a one-letter escape stands for. -/
def escaped? : Char → Option Char
  | '"' => some '"'
  | '\\' => some '\\'
  | '/' => some '/'
  | 'b' => some '\x08'
  | 'f' => some '\x0c'
  | 'n' => some '\n'
  | 'r' => some '\r'
  | 't' => some '\t'
  | _ => none

/-- A piece of a text: a character, or a code unit named by number. -/
inductive Piece where
  | char (c : Char)
  | unit (n : Nat)

/-- Reads the pieces of a text behind its opening quote, and the rest behind the closing one. -/
def readPieces : List Char → Option (List Piece × List Char)
  | [] => none
  | '"' :: rest => some ([], rest)
  | '\\' :: 'u' :: a :: b :: c :: d :: rest =>
    match hex4? a b c d with
    | some n => (readPieces rest).map fun (ps, rest) => (.unit n :: ps, rest)
    | none => none
  | '\\' :: c :: rest =>
    match escaped? c with
    | some e => (readPieces rest).map fun (ps, rest) => (.char e :: ps, rest)
    | none => none
  | c :: rest =>
    if c.toNat < 0x20 || c = '\\' then none
    else (readPieces rest).map fun (ps, rest) => (.char c :: ps, rest)

/-- Whether a code unit is the first of a surrogate pair. -/
def isHighSurrogate (n : Nat) : Bool := 0xD800 ≤ n && n < 0xDC00

/-- Whether a code unit is the second of a surrogate pair. -/
def isLowSurrogate (n : Nat) : Bool := 0xDC00 ≤ n && n < 0xE000

/-- The characters of the pieces; none if a surrogate stands alone. -/
def assemble : List Piece → Option (List Char)
  | [] => some []
  | .char c :: ps => (assemble ps).map (c :: ·)
  | .unit high :: .unit low :: ps =>
    if isHighSurrogate high then
      if isLowSurrogate low then
        (assemble ps).map (.ofNat (0x10000 + (high - 0xD800) * 0x400 + (low - 0xDC00)) :: ·)
      else none
    else if isLowSurrogate high then none
    else (assemble (.unit low :: ps)).map (.ofNat high :: ·)
  | .unit n :: ps =>
    if isHighSurrogate n || isLowSurrogate n then none else (assemble ps).map (.ofNat n :: ·)

/-- Reads a text behind its opening quote: its characters, or none if a surrogate in it stands
alone, and the rest behind the closing quote; none at all if the text is not well formed. -/
def readText (cs : List Char) : Option (Option (List Char) × List Char) :=
  (readPieces cs).map fun (ps, rest) => (assemble ps, rest)

/-! ## Numbers -/

/-- The digits at the front of a text, and the rest. -/
def spanDigits (cs : List Char) : List Char × List Char := cs.span Char.isDigit

/-- A number's parts: its sign, its digits before and behind the point, and its exponent, where it
has them. -/
structure Numeral where
  isNegative : Bool
  whole : List Char
  fraction : Option (List Char)
  exponent : Option (Bool × List Char)

namespace Numeral

/-- The value of digits. -/
def value (cs : List Char) : Nat := Nat.ofDigitChars 10 cs 0

/-- The power of ten by which the exponent shifts the point. -/
def shift (n : Numeral) : Int :=
  match n.exponent with
  | none => 0
  | some (isNegative, cs) => if isNegative then -(value cs : Int) else value cs

/-- Whether the number rounds beyond all finite floating-point values. -/
def isBeyond (n : Numeral) : Bool :=
  let fraction := n.fraction.getD []
  Text.overflows (value (n.whole ++ fraction)) (n.shift - fraction.length)

/-- The text of the number. -/
def literal (n : Numeral) : String :=
  .ofList <| (if n.isNegative then ['-'] else []) ++ n.whole ++
    (match n.fraction with
      | some cs => '.' :: cs
      | none => []) ++
    (match n.exponent with
      | some (isNegative, cs) => 'e' :: (if isNegative then ['-'] else []) ++ cs
      | none => [])

/-- The number as a datum. Integers of 64 bits are integers, except for a negative zero; every
other number is one with a decimal point, if it has a value. -/
def toDatum (n : Numeral) : Datum :=
  let magnitude := value n.whole
  if n.fraction.isNone && n.exponent.isNone && !n.isNegative && magnitude < UInt64.size then
    .int magnitude
  else if n.fraction.isNone && n.exponent.isNone && n.isNegative && 0 < magnitude &&
      magnitude ≤ UInt64.size / 2 then
    .int (-magnitude)
  else if n.isBeyond then .damaged .valueless
  else .decimal n.literal

end Numeral

/-- Reads the digits that a point or an exponent must be followed by. -/
def readDigits? (cs : List Char) : Option (List Char × List Char) :=
  match spanDigits cs with
  | ([], _) => none
  | parts => some parts

/-- Reads the digits before the point: a zero alone, or digits that do not start with one. -/
def readWhole? : List Char → Option (List Char × List Char)
  | '0' :: rest =>
    match rest with
    | c :: _ => if c.isDigit then none else some (['0'], rest)
    | [] => some (['0'], rest)
  | cs => readDigits? cs

/-- Reads the point and the digits behind it, where there is a point. -/
def readFraction? : List Char → Option (Option (List Char) × List Char)
  | '.' :: rest => (readDigits? rest).map fun (ds, rest) => (some ds, rest)
  | rest => some (none, rest)

/-- Reads the exponent, where there is one. -/
def readExponent? : List Char → Option (Option (Bool × List Char) × List Char)
  | [] => some (none, [])
  | c :: rest =>
    if c = 'e' || c = 'E' then
      match rest with
      | '-' :: rest => (readDigits? rest).map fun (ds, rest) => (some (true, ds), rest)
      | '+' :: rest => (readDigits? rest).map fun (ds, rest) => (some (false, ds), rest)
      | rest => (readDigits? rest).map fun (ds, rest) => (some (false, ds), rest)
    else some (none, c :: rest)

/-- Reads a number. -/
def readNumeral? (cs : List Char) : Option (Numeral × List Char) := do
  let (isNegative, cs) := match cs with
    | '-' :: rest => (true, rest)
    | rest => (false, rest)
  let (whole, cs) ← readWhole? cs
  let (fraction, cs) ← readFraction? cs
  let (exponent, cs) ← readExponent? cs
  return (⟨isNegative, whole, fraction, exponent⟩, cs)

/-! ## Values -/

/-- A finished list or record, if it is not nested too deeply to have a value. -/
def close (depth : Nat) (datum : Datum) (rest : Option (List Char)) : Parsed Datum :=
  if depth = 0 then
    (.damaged (if datum.isPassable then .valueless else .unreadable), rest)
  else (datum, rest)

/-- The members of a record and the damage that ends them, if any. -/
structure Members where
  members : List (String × Datum)
  damage : Option Damage

namespace Members

/-- No members. -/
def none : Members := ⟨[], .none⟩

/-- Members that the text breaks off after. -/
def broken (members : List (String × Datum)) : Members := ⟨members, some .unreadable⟩

/-- The members behind one more. A key without value ends the readable ones. -/
def cons (key : Option (List Char)) (datum : Datum) (others : Members) : Members :=
  match key with
  | some key => ⟨(.ofList key, datum) :: others.members, others.damage⟩
  | .none =>
    let passable := datum.isPassable && Datum.areMembersPassable others.members &&
      others.damage ≠ some .unreadable
    ⟨[], some (if passable then .valueless else .unreadable)⟩

/-- The record of the members. -/
def toDatum (m : Members) : Datum :=
  match m.damage with
  | .none => .record m.members
  | some damage => .torn m.members damage

end Members

mutual

/-- Reads a value, at a place where `depth` more lists and records may be opened. -/
def readValue : Nat → Nat → List Char → Parsed Datum
  | 0, _, _ => unreadable
  | fuel + 1, depth, cs =>
    match cs.dropWhile isBlank with
    | 'n' :: 'u' :: 'l' :: 'l' :: rest => (.null, some rest)
    | 't' :: 'r' :: 'u' :: 'e' :: rest => (.bool true, some rest)
    | 'f' :: 'a' :: 'l' :: 's' :: 'e' :: rest => (.bool false, some rest)
    | '"' :: rest =>
      match readText rest with
      | some (some content, rest) => (.text (.ofList content), some rest)
      | some (none, rest) => (.damaged .valueless, some rest)
      | none => unreadable
    | '[' :: rest =>
      match rest.dropWhile isBlank with
      | ']' :: rest => close depth (.list []) (some rest)
      | _ =>
        let (items, rest) := readItems fuel (depth - 1) rest
        close depth (.list items) rest
    | '{' :: rest =>
      match rest.dropWhile isBlank with
      | '}' :: rest => close depth (.record []) (some rest)
      | _ =>
        let (members, rest) := readMembers fuel (depth - 1) rest
        close depth members.toDatum rest
    | rest =>
      match readNumeral? rest with
      | some (n, rest) => (n.toDatum, some rest)
      | none => unreadable

/-- Reads the items of a list up to its closing bracket. -/
def readItems : Nat → Nat → List Char → Parsed (List Datum)
  | 0, _, _ => ([.damaged .unreadable], none)
  | fuel + 1, depth, cs =>
    match readValue fuel depth cs with
    | (item, none) => ([item], none)
    | (item, some rest) =>
      match rest.dropWhile isBlank with
      | ']' :: rest => ([item], some rest)
      | ',' :: rest =>
        let (items, rest) := readItems fuel depth rest
        (item :: items, rest)
      | _ => ([item, .damaged .unreadable], none)

/-- Reads the members of a record up to its closing brace. -/
def readMembers : Nat → Nat → List Char → Parsed Members
  | 0, _, _ => (.broken [], none)
  | fuel + 1, depth, cs =>
    match cs.dropWhile isBlank with
    | '"' :: rest =>
      match readText rest with
      | some (key, rest) =>
        match rest.dropWhile isBlank with
        | ':' :: rest =>
          match readValue fuel depth rest with
          | (datum, none) => (.cons key datum (.broken []), none)
          | (datum, some rest) =>
            match rest.dropWhile isBlank with
            | '}' :: rest => (.cons key datum .none, some rest)
            | ',' :: rest =>
              let (others, rest) := readMembers fuel depth rest
              (.cons key datum others, rest)
            | _ => (.cons key datum (.broken []), none)
        | _ => (.cons key (.damaged .unreadable) (.broken []), none)
      | none => (.broken [], none)
    | _ => (.broken [], none)

end

/-- A JSON text, as the tree it holds and whether nothing but blanks follows it. -/
structure Document where
  root : Datum
  isComplete : Bool

/-- Reads a JSON text. -/
def Document.ofText (text : String) : Document :=
  let cs := text.toList
  match readValue (2 * cs.length + 2) nestingLimit cs with
  | (root, none) => ⟨root, false⟩
  | (root, some rest) => ⟨root, rest.all isBlank⟩

/-- Reads a value from a JSON text. A fault inside the value is met before text behind it. -/
def parse {α : Type} (c : Codec α) (text : String) : Except DecodeError α :=
  let document := Document.ofText text
  match c.read .json document.root with
  | .error e => .error e
  | .ok x => if document.isComplete then .ok x else .error .invalid

end VmAdmission.Json
