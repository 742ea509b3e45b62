import VmAdmission.Datum
import VmAdmission.Uuid
import VmAdmission.Version

/-!
# Codecs

A codec reads a value from a datum and writes it as one. The notations differ in a few choices,
which a `Dialect` records; everything else about reading is the same in all of them.
`Codec.Lawful` says that what is written is read back, in every dialect that can write at all.
-/

namespace VmAdmission

/-- Why a datum holds no value of the wanted kind. -/
inductive DecodeError where
  | missingField (name : String)
  | unknownField (name : String)
  | duplicateField (name : String)
  | unknownVariant (name : String)
  | badVersion (error : VersionError)
  /-- Anything else: a wrong kind, a number out of range, a list of the wrong length, or text that
  makes no sense. -/
  | invalid
deriving DecidableEq

/-- The wording of a decoding fault. -/
def DecodeError.message : DecodeError → String
  | .missingField name => "missing field `" ++ name ++ "`"
  | .unknownField name => "unknown field `" ++ name ++ "`"
  | .duplicateField name => "duplicate field `" ++ name ++ "`"
  | .unknownVariant name => "unknown variant `" ++ name ++ "`"
  | .badVersion error => error.message
  | .invalid => "invalid"

/-- The choices in which the notations differ. -/
structure Dialect where
  /-- What may stand behind a plain variant's name when the variant is written as a record. -/
  isVariantPayload : Datum → Bool
  /-- Whether such a record's members are counted before its key is looked at. -/
  countsMembersFirst : Bool
  /-- Whether the tag of a tagged union may be the index of a variant. -/
  admitsIndexTags : Bool
  /-- Whether a list that stands for a record may have more items than the record has fields. -/
  admitsSurplusItems : Bool

namespace Dialect

/-- A datum read straight from a JSON text. -/
def json : Dialect where
  isVariantPayload
    | .null => true
    | _ => false
  countsMembersFirst := false
  admitsIndexTags := false
  admitsSurplusItems := false

/-- A datum set aside until a tag that may stand behind it is known. -/
def deferred : Dialect where
  isVariantPayload
    | .null | .record [] => true
    | _ => false
  countsMembersFirst := true
  admitsIndexTags := true
  admitsSurplusItems := false

/-- A datum of a TOML document. -/
def toml : Dialect where
  isVariantPayload
    | .record [] | .table [] => true
    | _ => false
  countsMembersFirst := true
  admitsIndexTags := false
  admitsSurplusItems := true

end Dialect

/-- How values of a type are read from data and written as data. -/
structure Codec (α : Type) where
  read : Dialect → Datum → Except DecodeError α
  write : α → Datum

namespace Codec

/-- Whether every value is read back from what is written for it. -/
def Lawful {α : Type} (c : Codec α) : Prop :=
  ∀ d x, c.read d (c.write x) = .ok x

/-! ## Scalars -/

/-- Truth values. -/
def bool : Codec Bool where
  read _
    | .bool b => .ok b
    | _ => .error .invalid
  write := .bool

/-- Texts. -/
def text : Codec String where
  read _
    | .text s => .ok s
    | _ => .error .invalid
  write := .text

/-- Natural numbers below a bound, through their numbers in a word type. -/
def natural {α : Type} (bound : Nat) (ofNat : Nat → α) (toNat : α → Nat) : Codec α where
  read _
    | .int (.ofNat n) => if n < bound then .ok (ofNat n) else .error .invalid
    | _ => .error .invalid
  write x := .int (toNat x)

/-- Numbers of 32 bits. -/
def uint32 : Codec UInt32 := natural UInt32.size .ofNat UInt32.toNat

/-- Numbers of 64 bits. -/
def uint64 : Codec UInt64 := natural UInt64.size .ofNat UInt64.toNat

/-- Identifiers, as texts. -/
def uuid : Codec Uuid where
  read _
    | .text s =>
      match Uuid.parse? s with
      | some u => .ok u
      | none => .error .invalid
    | _ => .error .invalid
  write u := .text u.render

/-- A version's text, and its fault as a decoding fault. -/
def parseVersion (s : String) : Except DecodeError Version :=
  (Version.parse s).mapError .badVersion

/-- Versions, as texts. -/
def version : Codec Version where
  read _
    | .text s => parseVersion s
    | _ => .error .invalid
  write v := .text v.render

theorem bool_lawful : bool.Lawful := fun _ _ => rfl

theorem text_lawful : text.Lawful := fun _ _ => rfl

theorem natural_lawful {α : Type} {bound : Nat} {ofNat : Nat → α} {toNat : α → Nat}
    (hb : ∀ x, toNat x < bound) (h : ∀ x, ofNat (toNat x) = x) :
    (natural bound ofNat toNat).Lawful := by
  intro d x
  show (if toNat x < bound then Except.ok (ofNat (toNat x)) else _) = _
  rw [if_pos (hb x), h]

theorem uint32_lawful : uint32.Lawful :=
  natural_lawful UInt32.toNat_lt_size fun _ => UInt32.ofNat_toNat

theorem uint64_lawful : uint64.Lawful :=
  natural_lawful UInt64.toNat_lt_size fun _ => UInt64.ofNat_toNat

theorem uuid_lawful : uuid.Lawful := by
  intro d u
  simp [uuid, Uuid.parse?_render]

theorem version_lawful : version.Lawful := by
  intro d v
  show (Version.parse v.render).mapError DecodeError.badVersion = .ok v
  rw [Version.parse_render]
  rfl

/-! ## Options and lists -/

/-- Values that may be absent, with `null` for none. -/
def option {α : Type} (c : Codec α) : Codec (Option α) where
  read d
    | .null => .ok none
    | datum => (c.read d datum).map some
  write
    | none => .null
    | some x => c.write x

/-- Lists. -/
def list {α : Type} (c : Codec α) : Codec (List α) where
  read d
    | .list items => items.mapM (c.read d)
    | _ => .error .invalid
  write xs := .list (xs.map c.write)

theorem mapM_read_write {α : Type} {c : Codec α} (h : c.Lawful) (d : Dialect) (xs : List α) :
    (xs.map c.write).mapM (c.read d) = .ok xs := by
  induction xs with
  | nil => rfl
  | cons x xs ih => rw [List.map_cons, List.mapM_cons, h, ih]; rfl

theorem list_lawful {α : Type} {c : Codec α} (h : c.Lawful) : c.list.Lawful :=
  fun d xs => mapM_read_write h d xs

theorem option_lawful {α : Type} {c : Codec α} (h : c.Lawful) (hn : ∀ x, c.write x ≠ .null) :
    c.option.Lawful := by
  intro d x
  cases x with
  | none => rfl
  | some x =>
    have : c.option.read d (c.write x) = (c.read d (c.write x)).map some := by
      simp only [option]
      split
      · exact absurd ‹_› (hn x)
      · rfl
    exact this.trans (by rw [h]; rfl)

/-! ## Plain enumerations -/

/-- Reads the name of a plain variant, alone or as the key of a record. A table is read at its
first member. -/
def readVariant {α : Type} (values : List α) (name : α → String) (d : Dialect) :
    Datum → Except DecodeError α
  | .text s => find s
  | .record members => ofMembers members true
  | .table members => ofMembers (members.take 1) true
  | .torn members _ => ofMembers members false
  | _ => .error .invalid
where
  /-- The variant of a name. -/
  find (s : String) : Except DecodeError α :=
    match values.find? fun x => name x = s with
    | some x => .ok x
    | none => .error (.unknownVariant s)
  /-- The variant that a record names with its only key. -/
  ofMembers : List (String × Datum) → Bool → Except DecodeError α
    | [], _ => .error .invalid
    | (key, payload) :: others, complete =>
      let alone := others.isEmpty && complete
      if d.countsMembersFirst && !alone then .error .invalid
      else
        match find key with
        | .error e => .error e
        | .ok x => if d.isVariantPayload payload && alone then .ok x else .error .invalid

/-- The values of a finite type, by name. -/
def enumeration {α : Type} (values : List α) (name : α → String) : Codec α where
  read := readVariant values name
  write x := .text (name x)

theorem enumeration_lawful {α : Type} {values : List α} {name : α → String}
    (hv : ∀ x, x ∈ values) (hn : ∀ x y, name x = name y → x = y) :
    (enumeration values name).Lawful := by
  intro d x
  have hf : values.find? (fun y => name y = name x) = some x := by
    obtain ⟨y, hy⟩ : ∃ y, values.find? (fun y => name y = name x) = some y :=
      Option.isSome_iff_exists.1 (List.find?_isSome.2 ⟨x, hv x, by simp⟩)
    have := hn y x (by simpa using List.find?_some hy)
    rw [hy, this]
  simp [enumeration, readVariant, readVariant.find, hf]

end Codec

end VmAdmission
