import VmAdmission.Text.Numeral
import VmAdmission.Text.Quoted

/-!
# Compatibility versions

A compatibility version is a pair of numbers, written `MAJOR.MINOR` and ordered by the major number
first. `parse_render` says that the written form of every version is read back.
-/

namespace VmAdmission

/-- A cluster compatibility version. -/
structure Version where
  major : UInt16
  minor : UInt16
deriving DecidableEq

/-- What is wrong with a version's text. -/
inductive VersionError where
  | fieldCount (text : String) (count : Nat)
  | badField (text : String) (error : NumeralError)
deriving DecidableEq

/-- The wording of a version's fault, which shows the whole text. -/
def VersionError.message : VersionError → String
  | .fieldCount text count =>
    "expected 2 fields in version " ++ Text.quoted text ++ ", got " ++ count.repr
  | .badField text error =>
    "failed to parse version " ++ Text.quoted text ++ ": " ++ error.message

namespace Version

/-! ## Order -/

/-- One version is at most another if its major number is smaller, or the same with a minor number
at most the other's. -/
instance : LE Version :=
  ⟨fun v w => v.major < w.major ∨ v.major = w.major ∧ v.minor ≤ w.minor⟩

instance (v w : Version) : Decidable (v ≤ w) :=
  inferInstanceAs (Decidable (v.major < w.major ∨ v.major = w.major ∧ v.minor ≤ w.minor))

instance : Ord Version :=
  ⟨fun v w => (compare v.major w.major).then (compare v.minor w.minor)⟩

theorem le_def {v w : Version} :
    v ≤ w ↔ v.major < w.major ∨ v.major = w.major ∧ v.minor ≤ w.minor := Iff.rfl

/-- Versions are compared as numbers. -/
theorem le_iff_toNat {v w : Version} :
    v ≤ w ↔ v.major.toNat < w.major.toNat ∨
      v.major.toNat = w.major.toNat ∧ v.minor.toNat ≤ w.minor.toNat := by
  rw [le_def, UInt16.lt_iff_toNat_lt, UInt16.le_iff_toNat_le, ← UInt16.toNat_inj]

theorem le_refl (v : Version) : v ≤ v :=
  .inr ⟨rfl, UInt16.le_refl _⟩

theorem le_trans {u v w : Version} (h : u ≤ v) (h' : v ≤ w) : u ≤ w := by
  rw [le_iff_toNat] at *
  omega

theorem le_total (v w : Version) : v ≤ w ∨ w ≤ v := by
  rw [le_iff_toNat, le_iff_toNat]
  omega

theorem le_antisymm {v w : Version} (h : v ≤ w) (h' : w ≤ v) : v = w := by
  rw [le_iff_toNat] at *
  have hmajor : v.major = w.major := UInt16.toNat_inj.1 (by omega)
  have hminor : v.minor = w.minor := UInt16.toNat_inj.1 (by omega)
  cases v
  cases w
  cases hmajor
  cases hminor
  rfl

/-- The versions in ascending order. -/
def sorted (versions : List Version) : List Version :=
  versions.mergeSort fun v w => v ≤ w

/-! ## Written form -/

/-- The written form of a version. -/
def render (v : Version) : String :=
  .ofList (Numeral.digits v.major.toNat ++ '.' :: Numeral.digits v.minor.toNat)

/-- The dot-separated fields of a version's text. -/
def fields (text : String) : List (List Char) := text.toList.splitOn '.'

/-- Reads a version's text. Every field is read before the fields are counted, so a bad field is
reported whatever their number. -/
def parse (text : String) : Except VersionError Version :=
  match (fields text).mapM (Numeral.read 65535) with
  | .error error => .error (.badField text error)
  | .ok [major, minor] => .ok ⟨.ofNat major, .ofNat minor⟩
  | .ok numbers => .error (.fieldCount text numbers.length)

theorem dot_notMem_digits (n : Nat) : '.' ∉ Numeral.digits n := fun h =>
  absurd (Nat.isDigit_of_mem_toDigits (by decide) (by decide) h) (by decide)

theorem fields_render (v : Version) :
    fields v.render = [Numeral.digits v.major.toNat, Numeral.digits v.minor.toNat] := by
  rw [fields, render, String.toList_ofList,
    List.splitOn_append_cons_self_of_not_mem (dot_notMem_digits _),
    List.splitOn_eq_singleton (dot_notMem_digits _)]

/-- The written form of a version is read back. -/
theorem parse_render (v : Version) : parse v.render = .ok v := by
  have h₁ : Numeral.read 65535 (Numeral.digits v.major.toNat) = .ok v.major.toNat :=
    Numeral.read_digits (Nat.le_of_lt_succ v.major.toNat_lt)
  have h₂ : Numeral.read 65535 (Numeral.digits v.minor.toNat) = .ok v.minor.toNat :=
    Numeral.read_digits (Nat.le_of_lt_succ v.minor.toNat_lt)
  simp [parse, fields_render, h₁, h₂, bind, Except.bind, pure, Except.pure]

end Version

end VmAdmission
