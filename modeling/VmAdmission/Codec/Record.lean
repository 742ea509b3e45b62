import VmAdmission.Codec.Basic

/-!
# Record codecs

A record type is described once, by its fields in declaration order; the description both reads and
writes. A record is read member by member, so the first fault in the text is the one reported: an
unknown or repeated key at the key, before its value is looked at, and a missing field at the end,
the first in declaration order. A record may also be given as the list of its fields' values.
-/

namespace VmAdmission.Codec

/-! ## Fields -/

/-- A field of the records of type `σ`, holding a value of type `α`. -/
structure Field (σ α : Type) where
  key : String
  codec : Codec α
  get : σ → α
  /-- The value of the field in a record without its key. -/
  absent : Option α
  /-- The value of the field in a list that ends before it. -/
  beyond : Option α
  /-- Whether the field is left out where a record with this value is written. -/
  isOmitted : α → Bool

namespace Field

variable {σ α : Type}

/-- A field that must be there. -/
def required (key : String) (codec : Codec α) (get : σ → α) : Field σ α where
  key; codec; get
  absent := none
  beyond := none
  isOmitted _ := false

/-- A field that may be left out, with the value that stands for it then. -/
def defaulting (key : String) (codec : Codec α) (get : σ → α) (default : α) : Field σ α where
  key; codec; get
  absent := some default
  beyond := some default
  isOmitted _ := false

/-- A field for which absence and `null` both mean none. -/
def optional (key : String) (codec : Codec α) (get : σ → Option α) : Field σ (Option α) :=
  defaulting key codec.option get none

/-- A field whose absence means none in a record, and which a list must nevertheless hold. -/
def optionalByKey (key : String) (codec : Codec α) (get : σ → Option α) : Field σ (Option α) where
  key; get
  codec := codec.option
  absent := some none
  beyond := none
  isOmitted _ := false

end Field

/-- The fields of the records of type `σ`, in declaration order. -/
inductive Fields (σ : Type) : List Type → Type 1 where
  | nil : Fields σ []
  | cons {α : Type} {αs : List Type} (field : Field σ α) (rest : Fields σ αs) :
      Fields σ (α :: αs)

/-- One value for each field. -/
def Values : List Type → Type
  | [] => Unit
  | α :: αs => α × Values αs

/-- One place for each field, filled when the field's key is met. -/
def Slots : List Type → Type
  | [] => Unit
  | α :: αs => Option α × Slots αs

/-- The places before any key is met. -/
def Slots.empty : (αs : List Type) → Slots αs
  | [] => ()
  | _ :: αs => (none, empty αs)

namespace Fields

variable {σ : Type} {αs : List Type}

/-! ## Reading -/

/-- Reads a member's value into the place of its field; none if no field has the key. -/
def fill (d : Dialect) (key : String) (datum : Datum) :
    {αs : List Type} → Fields σ αs → Slots αs → Option (Except DecodeError (Slots αs))
  | _, .nil, _ => none
  | _, .cons field rest, (slot, slots) =>
    if key = field.key then
      match slot with
      | some _ => some (.error (.duplicateField key))
      | none => some ((field.codec.read d datum).map fun x => (some x, slots))
    else (rest.fill d key datum slots).map (·.map (slot, ·))

/-- Reads members in turn. A strict record refuses a key that no field has; a lax one passes its
value over, if the text lets it. -/
def readMembers (strict : Bool) (d : Dialect) (fields : Fields σ αs) :
    List (String × Datum) → Slots αs → Except DecodeError (Slots αs)
  | [], slots => .ok slots
  | (key, datum) :: members, slots =>
    match fields.fill d key datum slots with
    | some (.error e) => .error e
    | some (.ok slots) => readMembers strict d fields members slots
    | none =>
      if strict then .error (.unknownField key)
      else if datum.isPassable then readMembers strict d fields members slots
      else .error .invalid

/-- The values of the fields once no more keys follow. -/
def complete : {αs : List Type} → Fields σ αs → Slots αs → Except DecodeError (Values αs)
  | _, .nil, _ => .ok ()
  | _, .cons field rest, (slot, slots) =>
    match slot.or field.absent with
    | none => .error (.missingField field.key)
    | some x => (rest.complete slots).map (x, ·)

/-- Reads the fields' values from a list in declaration order, and returns the items left over. -/
def readItems (d : Dialect) : {αs : List Type} → Fields σ αs → List Datum →
    Except DecodeError (Values αs × List Datum)
  | _, .nil, items => .ok ((), items)
  | _, .cons field rest, [] =>
    match field.beyond with
    | none => .error .invalid
    | some x => (rest.readItems d []).map fun (xs, left) => ((x, xs), left)
  | _, .cons field rest, item :: items =>
    match field.codec.read d item with
    | .error e => .error e
    | .ok x => (rest.readItems d items).map fun (xs, left) => ((x, xs), left)

/-- Reads the fields' values from a datum. -/
def read (strict : Bool) (fields : Fields σ αs) (d : Dialect) :
    Datum → Except DecodeError (Values αs)
  | .list items =>
    match fields.readItems d items with
    | .error e => .error e
    | .ok (xs, left) => if left.isEmpty || d.admitsSurplusItems then .ok xs else .error .invalid
  | datum =>
    match datum.members? with
    | none => .error .invalid
    | some (members, complete) =>
      match fields.readMembers strict d members (.empty αs) with
      | .error e => .error e
      | .ok slots => if complete then fields.complete slots else .error .invalid

/-! ## Writing -/

/-- The members of a record, in declaration order. -/
def members (r : σ) : {αs : List Type} → Fields σ αs → List (String × Datum)
  | _, .nil => []
  | _, .cons field rest =>
    let value := field.get r
    if field.isOmitted value then rest.members r
    else (field.key, field.codec.write value) :: rest.members r

/-- The keys of the fields, in declaration order. -/
def keys : {αs : List Type} → Fields σ αs → List String
  | _, .nil => []
  | _, .cons field rest => field.key :: rest.keys

end Fields

/-- The codec of a record type. -/
def record {σ : Type} {αs : List Type} (strict : Bool) (fields : Fields σ αs)
    (build : Values αs → σ) : Codec σ where
  read d datum := (fields.read strict d datum).map build
  write r := .record (fields.members r)

end VmAdmission.Codec
