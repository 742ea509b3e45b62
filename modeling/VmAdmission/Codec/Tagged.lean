import VmAdmission.Codec.Record

/-!
# Tagged unions

A value of a tagged union is written as one record: the tag names the variant, and the variant's own
members stand beside it. The tag may stand anywhere, so the other members are set aside until it is
known, and a damaged one spoils the whole. As a list, the tag comes first and the values of the
variant's fields follow.
-/

namespace VmAdmission.Codec

/-- A variant of the union `σ`: its name, how its contents are read, and its members where the
value is one of this variant. -/
structure Variant (σ : Type) where
  name : String
  read : Datum → Except DecodeError σ
  members? : σ → Option (List (String × Datum))

namespace Variant

variable {σ π : Type} {αs : List Type}

/-- A variant whose contents are a record. -/
def record (name : String) (strict : Bool) (fields : Fields π αs) (build : Values αs → σ)
    (project? : σ → Option π) : Variant σ where
  name
  read datum := (fields.read strict .deferred datum).map build
  members? x := (project? x).map fun p => fields.members p

/-- A variant without contents, which passes over what stands beside the tag in a record. -/
def unit (name : String) (value : σ) (isValue : σ → Bool) : Variant σ where
  name
  read
    | .list items => if items.isEmpty then .ok value else .error .invalid
    | _ => .ok value
  members? x := if isValue x then some [] else none

end Variant

namespace Tagged

variable {σ τ : Type}

/-- The variant that a tag's value names. -/
def readTag (variants : List (Variant σ)) (d : Dialect) : Datum → Except DecodeError (Variant σ)
  | .text name =>
    match variants.find? (·.name = name) with
    | some v => .ok v
    | none => .error (.unknownVariant name)
  | .int (.ofNat n) =>
    match variants[n]? with
    | some v => if d.admitsIndexTags then .ok v else .error .invalid
    | none => .error .invalid
  | _ => .error .invalid

/-- Takes the tag out of a record's members, and reads it when it is met. -/
def separate (tag : String) (readTag : Datum → Except DecodeError τ) :
    Option τ → List (String × Datum) →
      Except DecodeError (Option τ × List (String × Datum))
  | found, [] => .ok (found, [])
  | found, (key, datum) :: members =>
    if key = tag then
      match found with
      | some _ => .error (.duplicateField tag)
      | none =>
        match readTag datum with
        | .error e => .error e
        | .ok t => separate tag readTag (some t) members
    else if datum.isWhole then
      (separate tag readTag found members).map fun (t, others) => (t, (key, datum) :: others)
    else .error .invalid

/-- Reads a value of a tagged union. -/
def read (tag : String) (variants : List (Variant σ)) (d : Dialect) :
    Datum → Except DecodeError σ
  | .list [] => .error (.missingField tag)
  | .list (item :: items) =>
    match readTag variants d item with
    | .error e => .error e
    | .ok v => if Datum.areWhole items then v.read (.list items) else .error .invalid
  | datum =>
    match datum.members? with
    | none => .error .invalid
    | some (members, complete) =>
      match separate tag (readTag variants d) none members with
      | .error e => .error e
      | .ok (found, others) =>
        if complete then
          match found with
          | none => .error (.missingField tag)
          | some v => v.read (.record others)
        else .error .invalid

/-- The members of a value of a tagged union, the tag first. -/
def members (tag : String) (variants : List (Variant σ)) (x : σ) : List (String × Datum) :=
  (variants.findSome? fun v => (v.members? x).map ((tag, .text v.name) :: ·)).getD []

end Tagged

/-- The codec of a tagged union. -/
def tagged {σ : Type} (tag : String) (variants : List (Variant σ)) : Codec σ where
  read := Tagged.read tag variants
  write x := .record (Tagged.members tag variants x)

end VmAdmission.Codec
