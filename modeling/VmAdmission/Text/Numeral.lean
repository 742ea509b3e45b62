/-!
# Decimal numerals

Reading a numeral under a limit. The digits are taken one at a time from the left, so the first
digit that is none, or that lifts the value above the limit, decides what is wrong.
`read_digits` says that the numeral of every number up to the limit is read back.
-/

namespace VmAdmission

/-- What is wrong with a numeral. -/
inductive NumeralError where
  | empty
  | badDigit
  | tooLarge
deriving DecidableEq

/-- The wording of a numeral's fault. -/
def NumeralError.message : NumeralError → String
  | .empty => "cannot parse integer from empty string"
  | .badDigit => "invalid digit found in string"
  | .tooLarge => "number too large to fit in target type"

namespace Numeral

/-- The value of a number's digits so far followed by the given ones, if it stays within the
limit. At one place a character that is no digit is found before a value that is too large. -/
def readDigits (limit : Nat) : Nat → List Char → Except NumeralError Nat
  | value, [] => .ok value
  | value, c :: cs =>
    if c.isDigit then
      let next := 10 * value + (c.toNat - '0'.toNat)
      if next ≤ limit then readDigits limit next cs else .error .tooLarge
    else .error .badDigit

/-- The value of a numeral: an optional plus sign before one or more digits. A sign alone lacks
its digit. -/
def read (limit : Nat) : List Char → Except NumeralError Nat
  | [] => .error .empty
  | '+' :: digits => if digits.isEmpty then .error .badDigit else readDigits limit 0 digits
  | digits => readDigits limit 0 digits

/-- The digits of a number, the highest first and without leading zeros. -/
def digits (n : Nat) : List Char := Nat.toDigits 10 n

/-- Only the number zero starts with the digit zero. -/
theorem head?_digits_ne_zero {n : Nat} (hn : 0 < n) : (digits n).head? ≠ some '0' := by
  induction n using Nat.strongRecOn with
  | ind n ih =>
    rw [digits]
    by_cases hsmall : n < 10
    · rw [Nat.toDigits_of_lt_base hsmall]
      have hdigit : ∀ d : Fin 10, 0 < d.val → d.val.digitChar ≠ '0' := by decide
      exact fun h => hdigit ⟨n, hsmall⟩ hn (Option.some.inj h)
    · have hsplit := Nat.toDigits_of_base_le (b := 10) (by decide) (Nat.not_lt.1 hsmall)
      rw [hsplit, List.head?_append, Option.or_of_isSome (List.isSome_head?.2 Nat.toDigits_ne_nil)]
      exact ih (n / 10) (by omega) (by omega)

theorem le_ofDigitChars (value : Nat) (ds : List Char) : value ≤ Nat.ofDigitChars 10 ds value := by
  rw [Nat.ofDigitChars_eq_ofDigitChars_zero]
  have := Nat.le_mul_of_pos_left value (show 0 < 10 ^ ds.length from Nat.pow_pos (by decide))
  omega

/-- Digits whose value stays within the limit are taken, whatever follows. -/
theorem readDigits_append {limit value : Nat} {ds : List Char} (cs : List Char)
    (hd : ∀ d ∈ ds, d.isDigit = true) (h : Nat.ofDigitChars 10 ds value ≤ limit) :
    readDigits limit value (ds ++ cs) = readDigits limit (Nat.ofDigitChars 10 ds value) cs := by
  induction ds generalizing value with
  | nil => simp
  | cons d ds ih =>
    rw [Nat.ofDigitChars_cons] at h ⊢
    have hnext := Nat.le_trans (le_ofDigitChars _ ds) h
    rw [List.cons_append, readDigits, if_pos (hd d (by simp)), if_pos hnext]
    exact ih (fun c hm => hd c (by simp [hm])) h

theorem readDigits_digits {limit n : Nat} (h : n ≤ limit) :
    readDigits limit 0 (digits n) = .ok n := by
  have hv : Nat.ofDigitChars 10 (digits n) 0 = n := Nat.ofDigitChars_ten_toDigits
  have hd : ∀ c ∈ digits n, c.isDigit = true :=
    fun c hc => Nat.isDigit_of_mem_toDigits (by decide) (by decide) hc
  have := readDigits_append [] hd (hv.symm ▸ h)
  rwa [List.append_nil, hv] at this

/-- The numeral of a number up to the limit is read back. -/
theorem read_digits {limit n : Nat} (h : n ≤ limit) : read limit (digits n) = .ok n := by
  have hne : digits n ≠ [] := Nat.toDigits_ne_nil
  have hd : ∀ c ∈ digits n, c.isDigit = true :=
    fun c hc => Nat.isDigit_of_mem_toDigits (by decide) (by decide) hc
  have := readDigits_digits h
  match hc : digits n with
  | [] => exact absurd hc hne
  | c :: cs =>
    rw [hc] at this hd
    have hplus : c ≠ '+' := by
      rintro rfl
      exact absurd (hd '+' (by simp)) (by decide)
    unfold read
    split
    · simp_all
    · rename_i heq
      cases heq
      exact absurd rfl hplus
    · exact this

end Numeral

end VmAdmission
