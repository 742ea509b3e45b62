/-!
# Universally unique identifiers

An identifier is thirty-two hexadecimal digits. It is written in lower case in groups of
8, 4, 4, 4 and 12 digits joined by hyphens, and may also be read without hyphens, in braces or
behind `urn:uuid:`, in any letter case. `parse?_render` says that the written form is read back.
-/

namespace VmAdmission

/-- An identifier, as its hexadecimal digits. -/
structure Uuid where
  digits : List (Fin 16)
  length_eq : digits.length = 32
deriving DecidableEq

namespace Uuid

/-- The lengths of the groups of the written form. -/
def groupLengths : List Nat := [8, 4, 4, 4, 12]

/-! ## Digits -/

/-- The value of a hexadecimal digit in either case. -/
def digitValue? (c : Char) : Option (Fin 16) :=
  if '0' ≤ c ∧ c ≤ '9' then some (.ofNat 16 (c.toNat - '0'.toNat))
  else if 'a' ≤ c ∧ c ≤ 'f' then some (.ofNat 16 (c.toNat - 'a'.toNat + 10))
  else if 'A' ≤ c ∧ c ≤ 'F' then some (.ofNat 16 (c.toNat - 'A'.toNat + 10))
  else none

/-- The lower-case hexadecimal digit of a value. -/
def digitChar (d : Fin 16) : Char := d.val.digitChar

theorem digitValue?_digitChar : ∀ d : Fin 16, digitValue? (digitChar d) = some d := by decide

theorem digitChar_ne_hyphen : ∀ d : Fin 16, digitChar d ≠ '-' := by decide

theorem digitChar_ne_brace : ∀ d : Fin 16, digitChar d ≠ '\x7b' := by decide

theorem toLower_digitChar_ne : ∀ d : Fin 16, (digitChar d).toLower ≠ 'u' := by decide

/-- The identifier with the given digits, if they are thirty-two. -/
def ofDigits? (cs : List Char) : Option Uuid :=
  match cs.mapM digitValue? with
  | some digits => if h : digits.length = 32 then some ⟨digits, h⟩ else none
  | none => none

theorem mapM_digitValue? (ds : List (Fin 16)) :
    (ds.map digitChar).mapM digitValue? = some ds := by
  induction ds with
  | nil => rfl
  | cons d ds ih => simp [List.mapM_cons, digitValue?_digitChar, ih]

theorem ofDigits?_map (u : Uuid) : ofDigits? (u.digits.map digitChar) = some u := by
  rw [ofDigits?, mapM_digitValue?]
  simp [u.length_eq]

/-! ## Written form -/

/-- The digits in groups. -/
def groups (u : Uuid) : List (List Char) :=
  let cs := u.digits.map digitChar
  [cs.take 8, (cs.drop 8).take 4, (cs.drop 12).take 4, (cs.drop 16).take 4, cs.drop 20]

/-- The written form of an identifier. -/
def render (u : Uuid) : String := .ofList (['-'].intercalate u.groups)

/-- Reads digits in hyphenated groups of the right lengths. -/
def parseHyphenated? (cs : List Char) : Option Uuid :=
  let parts := cs.splitOn '-'
  if parts.map List.length = groupLengths then ofDigits? parts.flatten else none

/-- The mark before an identifier used as a name, in lower case. -/
def urnMark : List Char := ['u', 'r', 'n', ':', 'u', 'u', 'i', 'd', ':']

/-- Reads an identifier in any of its forms. -/
def parse? (text : String) : Option Uuid :=
  let cs := text.toList
  if cs.head? = some '\x7b' ∧ cs.getLast? = some '\x7d' then parseHyphenated? cs.tail.dropLast
  else if (cs.take urnMark.length).map Char.toLower = urnMark then
    parseHyphenated? (cs.drop urnMark.length)
  else if cs.contains '-' then parseHyphenated? cs
  else ofDigits? cs

theorem flatten_groups (u : Uuid) : u.groups.flatten = u.digits.map digitChar := by
  have h : ∀ cs : List Char, cs.take 8 ++ ((cs.drop 8).take 4 ++ ((cs.drop 12).take 4 ++
      ((cs.drop 16).take 4 ++ cs.drop 20))) = cs := by
    intro cs
    have e : ∀ i, (cs.drop i).take 4 ++ cs.drop (i + 4) = cs.drop i := by
      intro i; rw [← List.drop_drop]; exact List.take_append_drop 4 _
    rw [e 16, e 12, e 8, List.take_append_drop]
  simpa [groups] using h _

theorem length_groups (u : Uuid) : u.groups.map List.length = groupLengths := by
  simp [groups, groupLengths, u.length_eq]

theorem hyphen_notMem_groups (u : Uuid) : ∀ g ∈ u.groups, '-' ∉ g := by
  intro g hg hm
  have : '-' ∈ u.groups.flatten := List.mem_flatten.2 ⟨g, hg, hm⟩
  rw [flatten_groups, List.mem_map] at this
  obtain ⟨d, -, hd⟩ := this
  exact digitChar_ne_hyphen d hd

theorem parseHyphenated?_intercalate (u : Uuid) :
    parseHyphenated? (['-'].intercalate u.groups) = some u := by
  have hs : (['-'].intercalate u.groups).splitOn '-' = u.groups :=
    List.splitOn_intercalate '-' u.hyphen_notMem_groups (by simp [groups])
  simp only [parseHyphenated?, hs, length_groups, flatten_groups, ofDigits?_map]
  rfl

theorem exists_digits_eq_cons (u : Uuid) : ∃ d ds, u.digits = d :: ds := by
  cases h : u.digits with
  | nil => have := u.length_eq; simp [h] at this
  | cons d ds => exact ⟨d, ds, rfl⟩

/-- The written form of an identifier is read back. -/
theorem parse?_render (u : Uuid) : parse? u.render = some u := by
  obtain ⟨d, ds, hd⟩ := u.exists_digits_eq_cons
  obtain ⟨tail, ht⟩ : ∃ tail, ['-'].intercalate u.groups = digitChar d :: tail := by
    simp [groups, hd, List.intercalate, List.intersperse]
  have hhyphen : ('-' ∈ ['-'].intercalate u.groups) := by
    simp [groups, List.intercalate, List.intersperse]
  have hparse := u.parseHyphenated?_intercalate
  have hbrace := digitChar_ne_brace d
  have hmark := toLower_digitChar_ne d
  unfold parse? render
  rw [String.toList_ofList]
  generalize ['-'].intercalate u.groups = cs at ht hhyphen hparse
  generalize digitChar d = c at ht hbrace hmark
  have h₁ : ¬(cs.head? = some '\x7b' ∧ cs.getLast? = some '\x7d') := by simp [ht, hbrace]
  have h₂ : (cs.take urnMark.length).map Char.toLower ≠ urnMark := by
    intro h
    have := congrArg List.head? h
    simp [ht, urnMark, hmark] at this
  simp only [h₁, h₂, List.contains_iff_mem, hhyphen, if_true, if_false]
  exact hparse

end Uuid

end VmAdmission
