import VmAdmission.Version
import VmAdmission.Proofs.Fallible
import Mathlib.Data.List.Induction

/-!
# The texts of versions

What a version's text may look like, said without the reader. A field is the text of a number
(`Numeral.Denotes`) or has a fault at its first bad place (`Numeral.HasFault`), and never both. A
text is read exactly if it has two fields that are texts of numbers; else the first field with a
fault is reported, and the number of fields only if there is none (`Version.parse_classifies`). What
is written for a version is read back, and a text is what is written for its version exactly if it
has neither a plus sign nor a surplus zero.
-/

namespace VmAdmission

namespace Numeral

/-! ## Texts of numbers -/

/-- A numeral without its plus sign. -/
def unsigned : List Char → List Char
  | '+' :: cs => cs
  | cs => cs

/-- Digits whose value is within the limit. -/
structure IsWithin (limit : Nat) (ds : List Char) : Prop where
  isDigit : ∀ d ∈ ds, d.isDigit = true
  le_limit : Nat.ofDigitChars 10 ds 0 ≤ limit

/-- The text of a number within the limit: an optional plus sign before one or more digits with that
value. -/
structure Denotes (limit : Nat) (cs : List Char) (n : Nat) : Prop where
  nonempty : unsigned cs ≠ []
  isWithin : IsWithin limit (unsigned cs)
  value_eq : Nat.ofDigitChars 10 (unsigned cs) 0 = n

/-- What is wrong with a numeral: there is nothing, or nothing behind the sign, or behind digits
whose value is within the limit stands a character that is no digit, or a digit that lifts the value
above it. -/
inductive HasFault (limit : Nat) : List Char → NumeralError → Prop where
  | empty : HasFault limit [] .empty
  | bareSign : HasFault limit ['+'] .badDigit
  | badDigit {cs good rest : List Char} {c : Char} (hsplit : unsigned cs = good ++ c :: rest)
      (hgood : IsWithin limit good) (hc : c.isDigit = false) : HasFault limit cs .badDigit
  | tooLarge {cs good rest : List Char} {c : Char} (hsplit : unsigned cs = good ++ c :: rest)
      (hgood : IsWithin limit good) (hc : c.isDigit = true)
      (hlarge : limit < Nat.ofDigitChars 10 (good ++ [c]) 0) : HasFault limit cs .tooLarge

/-- The numeral has a zero in front of further digits. -/
def HasSurplusZero (cs : List Char) : Prop :=
  ∃ d ds, unsigned cs = '0' :: d :: ds

variable {limit n : Nat} {cs ds : List Char} {c : Char} {e : NumeralError}

theorem unsigned_cons_of_ne (h : c ≠ '+') : unsigned (c :: cs) = c :: cs := by
  unfold unsigned
  split
  · rename_i heq
    cases heq
    exact absurd rfl h
  · rfl

theorem unsigned_of_notMem (h : '+' ∉ cs) : unsigned cs = cs := by
  cases cs with
  | nil => rfl
  | cons c cs =>
    refine unsigned_cons_of_ne ?_
    rintro rfl
    exact h List.mem_cons_self

theorem eq_of_unsigned_eq_nil (h : unsigned cs = []) : cs = [] ∨ cs = ['+'] := by
  cases cs with
  | nil => exact .inl rfl
  | cons c cs =>
    by_cases hc : c = '+'
    · subst hc
      exact .inr (congrArg (List.cons '+') h)
    · rw [unsigned_cons_of_ne hc] at h
      cases h

theorem isWithin_nil : IsWithin limit [] := ⟨by simp, by simp⟩

/-- One more digit is one more step of the value, which never falls. -/
theorem isWithin_concat_iff :
    IsWithin limit (ds ++ [c]) ↔
      IsWithin limit ds ∧ c.isDigit = true ∧ Nat.ofDigitChars 10 (ds ++ [c]) 0 ≤ limit := by
  constructor
  · rintro ⟨hdigits, hle⟩
    rw [List.forall_mem_append, List.forall_mem_singleton] at hdigits
    have hvalue := hle
    rw [Nat.ofDigitChars_append] at hvalue
    exact ⟨⟨hdigits.1, Nat.le_trans (le_ofDigitChars _ [c]) hvalue⟩, hdigits.2, hle⟩
  · rintro ⟨⟨hdigits, -⟩, hc, hle⟩
    exact ⟨List.forall_mem_append.2 ⟨hdigits, List.forall_mem_singleton.2 hc⟩, hle⟩

/-- Characters are digits with a value within the limit, or there is a first place behind which they
no longer are. -/
theorem isWithin_or_exists_stop (limit : Nat) (cs : List Char) :
    IsWithin limit cs ∨ ∃ good c rest, cs = good ++ c :: rest ∧ IsWithin limit good ∧
      ¬ IsWithin limit (good ++ [c]) := by
  induction cs using List.reverseRecOn with
  | nil => exact .inl isWithin_nil
  | append_singleton cs c ih =>
    rcases ih with hcs | ⟨good, c', rest, rfl, hgood, hstop⟩
    · by_cases h : IsWithin limit (cs ++ [c])
      · exact .inl h
      · exact .inr ⟨cs, c, [], rfl, hcs, h⟩
    · exact .inr ⟨good, c', rest ++ [c], by simp, hgood, hstop⟩

/-- Every text is that of a number, or has a fault. -/
theorem denotes_or_hasFault (limit : Nat) (cs : List Char) :
    (∃ n, Denotes limit cs n) ∨ ∃ e, HasFault limit cs e := by
  by_cases hempty : unsigned cs = []
  · rcases eq_of_unsigned_eq_nil hempty with rfl | rfl
    · exact .inr ⟨_, .empty⟩
    · exact .inr ⟨_, .bareSign⟩
  · rcases isWithin_or_exists_stop limit (unsigned cs) with
      hcs | ⟨good, c, rest, hsplit, hgood, hstop⟩
    · exact .inl ⟨_, hempty, hcs, rfl⟩
    · right
      rw [isWithin_concat_iff] at hstop
      by_cases hc : c.isDigit = true
      · have hlarge : limit < Nat.ofDigitChars 10 (good ++ [c]) 0 :=
          Nat.lt_of_not_le fun hle => hstop ⟨hgood, hc, hle⟩
        exact ⟨_, .tooLarge hsplit hgood hc hlarge⟩
      · exact ⟨_, .badDigit hsplit hgood (by simpa using hc)⟩

/-! ## What is read -/

theorem read_eq_readDigits (h : unsigned cs ≠ []) :
    read limit cs = readDigits limit 0 (unsigned cs) := by
  cases cs with
  | nil => exact absurd rfl h
  | cons c cs =>
    by_cases hc : c = '+'
    · subst hc
      have hcs : cs.isEmpty = false := List.isEmpty_eq_false_iff.2 h
      simp [read, unsigned, hcs]
    · rw [unsigned_cons_of_ne hc]
      unfold read
      split
      · rename_i heq
        cases heq
      · rename_i heq
        cases heq
        exact absurd rfl hc
      · rfl

theorem read_of_denotes (h : Denotes limit cs n) : read limit cs = .ok n := by
  have hread := readDigits_append [] h.isWithin.isDigit h.isWithin.le_limit
  rw [List.append_nil, h.value_eq] at hread
  rw [read_eq_readDigits h.nonempty, hread]
  rfl

theorem read_of_hasFault (h : HasFault limit cs e) : read limit cs = .error e := by
  cases h with
  | empty => rfl
  | bareSign => rfl
  | badDigit hsplit hgood hc =>
    rw [read_eq_readDigits (by simp [hsplit]), hsplit,
      readDigits_append _ hgood.isDigit hgood.le_limit, readDigits, hc]
    rfl
  | tooLarge hsplit hgood hc hlarge =>
    rw [Nat.ofDigitChars_append, Nat.ofDigitChars_cons, Nat.ofDigitChars_nil] at hlarge
    rw [read_eq_readDigits (by simp [hsplit]), hsplit,
      readDigits_append _ hgood.isDigit hgood.le_limit, readDigits, if_pos hc,
      if_neg (by omega)]

theorem read_eq_ok_iff : read limit cs = .ok n ↔ Denotes limit cs n := by
  refine ⟨fun h => ?_, read_of_denotes⟩
  rcases denotes_or_hasFault limit cs with ⟨m, hm⟩ | ⟨e, he⟩
  · cases h.symm.trans (read_of_denotes hm)
    exact hm
  · cases h.symm.trans (read_of_hasFault he)

theorem read_eq_error_iff : read limit cs = .error e ↔ HasFault limit cs e := by
  refine ⟨fun h => ?_, read_of_hasFault⟩
  rcases denotes_or_hasFault limit cs with ⟨m, hm⟩ | ⟨e', he⟩
  · cases h.symm.trans (read_of_denotes hm)
  · cases h.symm.trans (read_of_hasFault he)
    exact he

/-! ## What is written -/

theorem isDigit_of_mem_digits (h : c ∈ digits n) : c.isDigit = true :=
  Nat.isDigit_of_mem_toDigits (by decide) (by decide) h

theorem plus_notMem_of_isDigit (h : ∀ d ∈ ds, d.isDigit = true) : '+' ∉ ds :=
  fun hmem => absurd (h '+' hmem) (by decide)

theorem sub_zero_lt_ten (h : c.isDigit = true) : c.toNat - '0'.toNat < 10 := by
  rw [Char.isDigit_iff_toNat] at h
  have h₀ : '0'.toNat = 48 := rfl
  have h₉ : '9'.toNat = 57 := rfl
  omega

theorem digits_sub_zero (h : c.isDigit = true) : digits (c.toNat - '0'.toNat) = [c] := by
  have hlt := sub_zero_lt_ten h
  have hchar : (c.toNat - '0'.toNat).digitChar = c := by
    rw [← Char.toNat_inj, Nat.toNat_digitChar_of_lt_ten hlt]
    rw [Char.isDigit_iff_toNat] at h
    have h₀ : '0'.toNat = 48 := rfl
    omega
  rw [digits, Nat.toDigits_of_lt_base hlt, hchar]

/-- Behind the digits of a number other than zero, more digits make the digits of a larger one. -/
theorem digits_append (hn : 0 < n) (hds : ∀ d ∈ ds, d.isDigit = true) :
    digits n ++ ds = digits (Nat.ofDigitChars 10 ds n) := by
  induction ds generalizing n with
  | nil => simp
  | cons d ds ih =>
    rw [List.forall_mem_cons] at hds
    have hstep : digits n ++ [d] = digits (10 * n + (d.toNat - '0'.toNat)) := by
      rw [← digits_sub_zero hds.1]
      exact Nat.toDigits_append_toDigits (by decide) hn (sub_zero_lt_ten hds.1)
    rw [List.append_cons, hstep, ih (by omega) hds.2, Nat.ofDigitChars_cons]

/-- Digits of which the first is no zero are those of their value. -/
theorem digits_ofDigitChars_cons (hc : c.isDigit = true) (hne : c ≠ '0')
    (hds : ∀ d ∈ ds, d.isDigit = true) :
    digits (Nat.ofDigitChars 10 (c :: ds) 0) = c :: ds := by
  have hpos : 0 < c.toNat - '0'.toNat := by
    rw [Char.isDigit_iff_toNat] at hc
    have hne' : c.toNat ≠ '0'.toNat := fun h => hne (Char.toNat_inj.1 h)
    omega
  rw [Nat.ofDigitChars_cons, Nat.mul_zero, Nat.zero_add, ← digits_append hpos hds,
    digits_sub_zero hc]
  rfl

theorem digits_ne_zero_cons_cons {d : Char} : digits n ≠ '0' :: d :: ds := by
  intro h
  rcases Nat.eq_zero_or_pos n with rfl | hn
  · cases h
  · refine head?_digits_ne_zero hn ?_
    rw [h]
    rfl

/-- What is written for the number of a text is that text, unless it has a plus sign or a surplus
zero. -/
theorem digits_eq_iff (h : Denotes limit cs n) :
    digits n = cs ↔ '+' ∉ cs ∧ ¬ HasSurplusZero cs := by
  constructor
  · rintro rfl
    have hplus := plus_notMem_of_isDigit fun d (hd : d ∈ digits n) => isDigit_of_mem_digits hd
    refine ⟨hplus, ?_⟩
    rintro ⟨d, ds, hds⟩
    rw [unsigned_of_notMem hplus] at hds
    exact digits_ne_zero_cons_cons hds
  · rintro ⟨hplus, hzero⟩
    obtain ⟨hne, ⟨hdigits, -⟩, hvalue⟩ := h
    unfold HasSurplusZero at hzero
    rw [unsigned_of_notMem hplus] at hne hdigits hvalue hzero
    subst hvalue
    rcases cs with _ | ⟨c, ds⟩
    · exact absurd rfl hne
    rw [List.forall_mem_cons] at hdigits
    by_cases hc : c = '0'
    · subst hc
      rcases ds with _ | ⟨d, ds⟩
      · decide
      · exact absurd ⟨d, ds, rfl⟩ hzero
    · exact digits_ofDigitChars_cons hdigits.1 hc hdigits.2

/-- A number's text has no other characters than digits and the sign. -/
theorem Denotes.notMem (h : Denotes limit cs n) (hplus : c ≠ '+') (hc : c.isDigit = false) :
    c ∉ cs := by
  intro hmem
  have hunsigned : c ∈ unsigned cs := by
    unfold unsigned
    split
    · exact (List.mem_cons.1 hmem).resolve_left hplus
    · exact hmem
  rw [h.isWithin.isDigit c hunsigned] at hc
  cases hc

end Numeral

namespace Version

open Numeral

variable {text : String} {v : Version} {e : VersionError}

/-! ## Fields -/

theorem dot_notMem_of_mem_splitOn {cs field : List Char} (h : field ∈ cs.splitOn '.') :
    '.' ∉ field := by
  induction cs generalizing field with
  | nil =>
    rw [List.splitOn_nil, List.mem_singleton] at h
    simp [h]
  | cons c cs ih =>
    rw [List.splitOn_cons_eq_if_modifyHead] at h
    split at h
    · rcases List.mem_cons.1 h with rfl | h
      · exact List.not_mem_nil
      · exact ih h
    · rename_i hc
      cases hsplit : cs.splitOn '.' with
      | nil => exact absurd hsplit (List.splitOn_ne_nil _ _)
      | cons first others =>
        rw [hsplit, List.modifyHead_cons] at h
        rw [hsplit] at ih
        rcases List.mem_cons.1 h with rfl | h
        · rw [List.mem_cons, not_or]
          exact ⟨fun he => hc (beq_iff_eq.2 he.symm), ih List.mem_cons_self⟩
        · exact ih (List.mem_cons_of_mem _ h)

/-- The fields of a text are what stands between its dots. -/
theorem fields_eq_iff {fs : List (List Char)} :
    fields text = fs ↔
      fs ≠ [] ∧ (∀ field ∈ fs, '.' ∉ field) ∧ ['.'].intercalate fs = text.toList := by
  constructor
  · rintro rfl
    exact ⟨List.splitOn_ne_nil _ _, fun field h => dot_notMem_of_mem_splitOn h,
      List.intercalate_splitOn '.'⟩
  · rintro ⟨hne, hdots, htext⟩
    rw [fields, ← htext, List.splitOn_intercalate '.' hdots hne]

theorem fields_eq_pair_iff {major minor : List Char} (hmajor : '.' ∉ major) (hminor : '.' ∉ minor) :
    fields text = [major, minor] ↔ text.toList = major ++ '.' :: minor := by
  have hjoin : ['.'].intercalate [major, minor] = major ++ '.' :: minor := by
    simp [List.intercalate]
  rw [fields_eq_iff, hjoin]
  constructor
  · rintro ⟨-, -, htext⟩
    exact htext.symm
  · intro htext
    exact ⟨by simp, by simp [hmajor, hminor], htext.symm⟩

/-! ## What is read -/

theorem toNat_ofNat_of_denotes {cs : List Char} {n : Nat} (h : Denotes 65535 cs n) :
    (UInt16.ofNat n).toNat = n := by
  have hle : n ≤ 65535 := h.value_eq ▸ h.isWithin.le_limit
  exact UInt16.toNat_ofNat_of_lt (Nat.lt_succ_of_le hle)

theorem dot_notMem_of_denotes {cs : List Char} {n : Nat} (h : Denotes 65535 cs n) : '.' ∉ cs :=
  h.notMem (by decide) (by decide)

/-- A version is read from the texts of its two numbers with a dot between them. -/
theorem parse_eq_ok_iff :
    parse text = .ok v ↔ ∃ major minor, text.toList = major ++ '.' :: minor ∧
      Denotes 65535 major v.major.toNat ∧ Denotes 65535 minor v.minor.toNat := by
  constructor
  · intro h
    unfold parse at h
    split at h
    · cases h
    · rename_i hnumbers
      cases h
      rw [mapM_eq_ok_iff] at hnumbers
      generalize hfields : fields text = fs at hnumbers
      rcases hnumbers with _ | @⟨major, _, _, _, hmajor, _ | @⟨minor, _, _, _, hminor, _ | _⟩⟩
      rw [read_eq_ok_iff] at hmajor hminor
      rw [fields_eq_pair_iff (dot_notMem_of_denotes hmajor) (dot_notMem_of_denotes hminor)]
        at hfields
      refine ⟨major, minor, hfields, ?_, ?_⟩
      · rwa [toNat_ofNat_of_denotes hmajor]
      · rwa [toNat_ofNat_of_denotes hminor]
    · cases h
  · rintro ⟨major, minor, htext, hmajor, hminor⟩
    rw [← fields_eq_pair_iff (dot_notMem_of_denotes hmajor) (dot_notMem_of_denotes hminor)] at htext
    unfold parse
    rw [htext, List.mapM_cons, List.mapM_cons, read_of_denotes hmajor, read_of_denotes hminor]
    simp [pure, Except.pure]

/-- The first field that is no number's text has a fault. -/
def FirstFault (fs : List (List Char)) (fault : NumeralError) : Prop :=
  ∃ field, IsFirst (fun f => ∀ n, ¬ Denotes 65535 f n) fs field ∧ HasFault 65535 field fault

theorem mapM_read_eq_error_iff {fs : List (List Char)} {fault : NumeralError} :
    fs.mapM (Numeral.read 65535) = .error fault ↔ FirstFault fs fault := by
  unfold FirstFault
  simp only [mapM_eq_error_iff, ne_eq, read_eq_ok_iff, read_eq_error_iff]

theorem exists_mapM_read_iff {fs : List (List Char)} :
    (∃ numbers, fs.mapM (Numeral.read 65535) = .ok numbers) ↔
      ∀ f ∈ fs, ∃ n, Denotes 65535 f n := by
  simp only [exists_mapM_eq_ok_iff, read_eq_ok_iff]

/-- A text is refused for its first field with a fault, or for the number of its fields if there is
no such field. -/
theorem parse_eq_error_iff :
    parse text = .error e ↔
      (∃ fault, FirstFault (fields text) fault ∧ e = .badField text fault) ∨
      ((∀ f ∈ fields text, ∃ n, Denotes 65535 f n) ∧ (fields text).length ≠ 2 ∧
        e = .fieldCount text (fields text).length) := by
  simp only [← mapM_read_eq_error_iff, ← exists_mapM_read_iff]
  unfold parse
  cases hnumbers : (fields text).mapM (Numeral.read 65535) with
  | error fault => simp [eq_comm]
  | ok numbers =>
    have hlength : (fields text).length = numbers.length := (mapM_eq_ok_iff.1 hnumbers).length_eq
    rw [hlength]
    rcases numbers with _ | ⟨M, _ | ⟨m, _ | ⟨k, numbers⟩⟩⟩ <;> simp [eq_comm]

/-! ## What is written -/

/-- A version's text is what is written for the version, unless it has a plus sign or a surplus
zero. -/
theorem render_eq_iff (h : parse text = .ok v) :
    v.render = text ↔ '+' ∉ text.toList ∧ ∀ field ∈ fields text, ¬ HasSurplusZero field := by
  obtain ⟨major, minor, htext, hmajor, hminor⟩ := parse_eq_ok_iff.1 h
  have hfields : fields text = [major, minor] :=
    (fields_eq_pair_iff (dot_notMem_of_denotes hmajor) (dot_notMem_of_denotes hminor)).2 htext
  have hrender : v.render = text ↔
      digits v.major.toNat = major ∧ digits v.minor.toNat = minor := by
    constructor
    · rintro rfl
      rw [fields_render] at hfields
      simpa using hfields
    · rintro ⟨hM, hm⟩
      rw [render, hM, hm, ← htext, String.ofList_toList]
  have hplus : '+' ∉ text.toList ↔ '+' ∉ major ∧ '+' ∉ minor := by
    rw [htext, List.mem_append, List.mem_cons, not_or, not_or]
    exact and_congr_right' (and_iff_right (by decide))
  rw [hrender, digits_eq_iff hmajor, digits_eq_iff hminor, hplus, hfields, List.forall_mem_cons,
    List.forall_mem_singleton]
  exact and_and_and_comm

/-- **The texts of versions.** The fields of a text are what stands between its dots. A text is read
exactly if it is two texts of numbers up to 65535 with a dot between them, and then as these
numbers. Otherwise the first field that is no number's text is reported with its fault, however many
fields there are; and if there is no such field, their number is. What is written for a version is
read back, and a text that is read is what is written for its version exactly if it has no plus sign
and no surplus zero. -/
theorem parse_classifies (text : String) :
    (fields text ≠ [] ∧ (∀ field ∈ fields text, '.' ∉ field) ∧
      ['.'].intercalate (fields text) = text.toList) ∧
    (∀ v, parse text = .ok v ↔ ∃ major minor, text.toList = major ++ '.' :: minor ∧
      Denotes 65535 major v.major.toNat ∧ Denotes 65535 minor v.minor.toNat) ∧
    (∀ e, parse text = .error e ↔
      (∃ fault, FirstFault (fields text) fault ∧ e = .badField text fault) ∨
      ((∀ f ∈ fields text, ∃ n, Denotes 65535 f n) ∧ (fields text).length ≠ 2 ∧
        e = .fieldCount text (fields text).length)) ∧
    (∀ v, parse v.render = .ok v) ∧
    (∀ v, parse text = .ok v → (v.render = text ↔
      '+' ∉ text.toList ∧ ∀ field ∈ fields text, ¬ HasSurplusZero field)) :=
  ⟨fields_eq_iff.1 rfl, fun _ => parse_eq_ok_iff, fun _ => parse_eq_error_iff, parse_render,
    fun _ => render_eq_iff⟩

end Version

end VmAdmission
