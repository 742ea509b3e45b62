import VmAdmission.Toml.KeyPath
import VmAdmission.Toml.Scalar

/-!
# Values in TOML

A value is a scalar, a list, which may run over several lines, or a record on one line. The keys of
a record may be dotted; the records that they lead through may be opened again by later keys.
-/

namespace VmAdmission.Toml

/-- Puts a value into a record's members at a path, and opens the records on the way. -/
def insertAt? (key : String) (value : Datum) : List String → Entries Datum → Option (Entries Datum)
  | [], members => members.add? key value
  | parent :: parents, members =>
    let insert (inner : Entries Datum) : Option (Datum × Unit) :=
      (insertAt? key value parents inner).map fun inner => (.record inner, ())
    (members.alter? parent fun
      | none => insert []
      | some (.record inner) => insert inner
      | some _ => none).map Prod.fst

mutual

/-- Reads a value, at a place where `depth` more lists and records may be opened. -/
def readValueWithin : Nat → Nat → List Char → Option (Datum × List Char)
  | 0, _, _ => none
  | fuel + 1, depth, cs =>
    match cs with
    | '[' :: rest =>
      if depth = 0 then none
      else (readItems fuel (depth - 1) rest).map fun (items, rest) => (.list items, rest)
    | '\x7b' :: rest =>
      if depth = 0 then none
      else
        match skipBlanks rest with
        | '\x7d' :: rest => some (.record [], rest)
        | rest =>
          (readMembers fuel (depth - 1) [] rest).map fun (members, rest) =>
            (.record members, rest)
    | _ => readScalar? cs

/-- Reads the items of a list up to its closing bracket, before which a comma may stand. -/
def readItems : Nat → Nat → List Char → Option (List Datum × List Char)
  | 0, _, _ => none
  | fuel + 1, depth, cs =>
    match skipVoid false cs with
    | ']' :: rest => some ([], rest)
    | cs => do
      let (item, cs) ← readValueWithin fuel depth cs
      match skipVoid false cs with
      | ']' :: rest => return ([item], rest)
      | ',' :: rest =>
        let (items, rest) ← readItems fuel depth rest
        return (item :: items, rest)
      | _ => none

/-- Reads members behind others up to the closing brace of their record. -/
def readMembers : Nat → Nat → Entries Datum → List Char → Option (Entries Datum × List Char)
  | 0, _, _, _ => none
  | fuel + 1, depth, members, cs => do
    let (path, cs) ← readPath? cs
    let cs ← expect? '=' cs
    let (value, cs) ← readValueWithin fuel depth (skipBlanks cs)
    let members ← insertAt? path.key value path.parents members
    match skipBlanks cs with
    | '\x7d' :: rest => return (members, rest)
    | ',' :: rest => readMembers fuel depth members rest
    | _ => none

end

/-- Reads a value. -/
def readValue? (cs : List Char) : Option (Datum × List Char) :=
  readValueWithin (2 * cs.length + 2) nestingLimit cs

end VmAdmission.Toml
