import VmAdmission.Datum
import VmAdmission.Text.Magnitude
import VmAdmission.Toml.Text

/-!
# Numbers, dates and times in TOML

Integers have 64 bits and a sign. A number with a point or an exponent has a value only if it does
not round to positive infinity. Dates and times are recognised, and their parts checked, but what
they say is not kept, since nothing asks for it.
-/

namespace VmAdmission.Toml

/-! ## Digits -/

/-- Reads digits behind a first one; an underscore may stand between two of them. -/
def readMoreDigits (isDigit : Char → Bool) : Reader (List Char)
  | [] => some ([], [])
  | '_' :: c :: rest => if isDigit c then prepend c (readMoreDigits isDigit rest) else none
  | c :: rest =>
    if isDigit c then prepend c (readMoreDigits isDigit rest)
    else if c = '_' then none
    else some ([], c :: rest)

/-- Reads one or more digits; an underscore may stand between two of them. -/
def readDigits? (isDigit : Char → Bool) : Reader (List Char)
  | [] => none
  | c :: rest => if isDigit c then prepend c (readMoreDigits isDigit rest) else none

/-- Whether a text starts with a sign, a minus counting as true; and the rest. -/
def readSign : List Char → Option Bool × List Char
  | '+' :: rest => (some false, rest)
  | '-' :: rest => (some true, rest)
  | rest => (none, rest)

/-- The value of decimal digits. -/
def decimalValue (cs : List Char) : Nat := Nat.ofDigitChars 10 cs 0

/-! ## Dates and times -/

/-- Reads a number of exactly two digits between two bounds. -/
def readTwo? (low high : Nat) : Reader Nat
  | a :: b :: rest =>
    if a.isDigit && b.isDigit then
      let n := decimalValue [a, b]
      if low ≤ n ∧ n ≤ high then some (n, rest) else none
    else none
  | _ => none

/-- The text behind a given character. -/
def expect? (c : Char) : List Char → Option (List Char)
  | d :: rest => if c = d then some rest else none
  | [] => none

/-- The text behind a date. -/
def skipDate? : List Char → Option (List Char)
  | a :: b :: c :: d :: rest => do
    if a.isDigit && b.isDigit && c.isDigit && d.isDigit then
      let rest ← expect? '-' rest
      let (_, rest) ← readTwo? 1 12 rest
      let rest ← expect? '-' rest
      let (_, rest) ← readTwo? 1 31 rest
      return rest
    else none
  | _ => none

/-- The text behind the fraction of a second, if there is one. -/
def skipFraction (cs : List Char) : List Char :=
  match cs with
  | '.' :: c :: rest => if c.isDigit then rest.dropWhile Char.isDigit else cs
  | _ => cs

/-- The text behind a time of day. -/
def skipTime? (cs : List Char) : Option (List Char) := do
  let (_, cs) ← readTwo? 0 23 cs
  let cs ← expect? ':' cs
  let (_, cs) ← readTwo? 0 59 cs
  let cs ← expect? ':' cs
  let (_, cs) ← readTwo? 0 60 cs
  return skipFraction cs

/-- The text behind a zone, if there is one. -/
def skipZone (cs : List Char) : List Char :=
  match cs with
  | 'Z' :: rest | 'z' :: rest => rest
  | '+' :: rest | '-' :: rest =>
    (do
      let (_, rest) ← readTwo? 0 23 rest
      let rest ← expect? ':' rest
      let (_, rest) ← readTwo? 0 59 rest
      return rest).getD cs
  | _ => cs

/-- The text behind a date, a time of day, or both. -/
def skipMoment? (cs : List Char) : Option (List Char) :=
  match skipDate? cs with
  | none => skipTime? cs
  | some rest =>
    match rest with
    | 'T' :: time | 't' :: time | ' ' :: time =>
      match skipTime? time with
      | some behind => some (skipZone behind)
      | none => some rest
    | _ => some rest

/-! ## Numbers -/

/-- Reads decimal digits that do not start with a superfluous zero. -/
def readWhole? : Reader (List Char)
  | '0' :: rest => some (['0'], rest)
  | cs => readDigits? Char.isDigit cs

/-- Reads the digits behind a point, where there is one. -/
def readFraction? : Reader (Option (List Char))
  | '.' :: rest => (readDigits? Char.isDigit rest).map fun (ds, rest) => (some ds, rest)
  | rest => some (none, rest)

/-- Reads an exponent, where there is one. -/
def readExponent? : Reader (Option Int)
  | [] => some (none, [])
  | c :: rest =>
    if c = 'e' || c = 'E' then
      let (sign, rest) := readSign rest
      (readDigits? Char.isDigit rest).map fun (ds, rest) =>
        (some (if sign = some true then -(decimalValue ds : Int) else decimalValue ds), rest)
    else some (none, c :: rest)

/-- Whether a number is one of the signed 64-bit integers. -/
def isWord (n : Int) : Bool := Int64.minValue.toInt ≤ n && n ≤ Int64.maxValue.toInt

/-- An integer, if it has 64 bits. -/
def word? (n : Int) : Option Datum := if isWord n then some (.int n) else none

/-- Reads a decimal number. -/
def readDecimal? (cs : List Char) : Option (Datum × List Char) := do
  let (sign, cs) := readSign cs
  let isNegative := sign = some true
  let (whole, cs) ← readWhole? cs
  let (fraction, cs) ← readFraction? cs
  let (exponent, cs) ← readExponent? cs
  if fraction.isNone && exponent.isNone then
    let n := decimalValue whole
    return (← word? (if isNegative then -(n : Int) else n), cs)
  else
    let behindPoint := fraction.getD []
    let significand := whole ++ behindPoint
    let overflows :=
      Text.overflows (decimalValue significand) (exponent.getD 0 - behindPoint.length)
    if overflows && !isNegative then none
    else return (.decimal (.ofList significand), cs)

/-- Reads the digits of an integer in a base of its own, behind the mark of the base. -/
def readBased? (base : Nat) (cs : List Char) : Option (Datum × List Char) := do
  let value? (c : Char) : Option Nat :=
    (Uuid.digitValue? c).bind fun d => if d.val < base then some d.val else none
  let (ds, cs) ← readDigits? (fun c => (value? c).isSome) cs
  let n := ds.foldl (fun n c => base * n + (value? c).getD 0) 0
  return (← word? n, cs)

/-- Reads infinity or the number that is none, behind a sign if there is one. -/
def readSpecial? (cs : List Char) : Option (Datum × List Char) :=
  match (readSign cs).2 with
  | 'i' :: 'n' :: 'f' :: rest => some (.decimal "inf", rest)
  | 'n' :: 'a' :: 'n' :: rest => some (.decimal "nan", rest)
  | _ => none

/-- Reads a number. -/
def readNumber? (cs : List Char) : Option (Datum × List Char) :=
  match cs with
  | '0' :: 'x' :: rest => readBased? 16 rest
  | '0' :: 'o' :: rest => readBased? 8 rest
  | '0' :: 'b' :: rest => readBased? 2 rest
  | _ => (readSpecial? cs).orElse fun _ => readDecimal? cs

/-- Reads a value without parts. -/
def readScalar? (cs : List Char) : Option (Datum × List Char) :=
  match cs with
  | 't' :: 'r' :: 'u' :: 'e' :: rest => some (.bool true, rest)
  | 'f' :: 'a' :: 'l' :: 's' :: 'e' :: rest => some (.bool false, rest)
  | '"' :: _ | '\'' :: _ => (readText? cs).map fun (s, rest) => (.text s, rest)
  | _ =>
    match skipMoment? cs with
    | some rest => some (.moment, rest)
    | none => readNumber? cs

end VmAdmission.Toml
