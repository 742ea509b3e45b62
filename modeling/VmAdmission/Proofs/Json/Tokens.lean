import VmAdmission.Json.Printer
import VmAdmission.Json.Reader
import Mathlib.Data.List.TakeDrop

/-!
# JSON tokens read back

The two tokens that carry contents are read back from what is written for them, whatever stands
behind: a text from its characters with their escapes (`readText_escaped`), and a natural number
from its digits, where no character follows that would go on with the number
(`readNumeral?_toDigits`).
-/

namespace VmAdmission.Json

/-! ## Texts -/

theorem hex4?_digitChar :
    ∀ n : Fin 32, hex4? '0' '0' (n.val / 16).digitChar (n.val % 16).digitChar = some n.val := by
  decide

/-- A code unit below the surrogates is a character of its own. -/
theorem assemble_unit {n : Nat} (h : n < 0x20) (ps : List Piece) :
    assemble (.unit n :: ps) = (assemble ps).map (Char.ofNat n :: ·) := by
  have hhigh : isHighSurrogate n = false := by
    simp only [isHighSurrogate, Bool.and_eq_false_iff, decide_eq_false_iff_not]
    omega
  have hlow : isLowSurrogate n = false := by
    simp only [isLowSurrogate, Bool.and_eq_false_iff, decide_eq_false_iff_not]
    omega
  rcases ps with _ | ⟨p, ps⟩
  · simp [assemble, hhigh, hlow]
  · cases p with
    | char c => simp [assemble, hhigh, hlow]
    | unit m => simp [assemble, hhigh, hlow]

/-- What is read as one piece, and the piece as one character, stands for the character. -/
theorem readText_of_piece {text cs : List Char} {piece : Piece} {c : Char}
    (hread : readPieces (text ++ cs) =
      (readPieces cs).map fun (ps, rest) => (piece :: ps, rest))
    (hpiece : ∀ ps, assemble (piece :: ps) = (assemble ps).map (c :: ·)) :
    readText (text ++ cs) =
      (readText cs).map fun (content, rest) => (content.map (c :: ·), rest) := by
  unfold readText
  rw [hread]
  cases readPieces cs with
  | none => rfl
  | some read => exact congrArg some (Prod.ext (hpiece read.1) rfl)

theorem readText_escapedChar (c : Char) (cs : List Char) :
    readText (escapedChar c ++ cs) =
      (readText cs).map fun (content, rest) => (content.map (c :: ·), rest) := by
  have hchar (ps : List Piece) : assemble (.char c :: ps) = (assemble ps).map (c :: ·) := rfl
  unfold escapedChar
  split
  · exact readText_of_piece rfl hchar
  · exact readText_of_piece rfl hchar
  · exact readText_of_piece rfl hchar
  · exact readText_of_piece rfl hchar
  · exact readText_of_piece rfl hchar
  · exact readText_of_piece rfl hchar
  · exact readText_of_piece rfl hchar
  · rename_i hquote hbackslash _ _ _ _ _
    split
    · -- a control character without an escape of its own is named by number
      rename_i hsmall
      have hhex : hex4? '0' '0' (c.toNat / 16).digitChar (c.toNat % 16).digitChar = some c.toNat :=
        hex4?_digitChar ⟨c.toNat, hsmall⟩
      have hread : readPieces (['\\', 'u', '0', '0', (c.toNat / 16).digitChar,
          (c.toNat % 16).digitChar] ++ cs) =
            (readPieces cs).map fun (ps, rest) => (.unit c.toNat :: ps, rest) := by
        simp only [List.cons_append, List.nil_append, readPieces, hhex]
      refine readText_of_piece hread fun ps => ?_
      rw [assemble_unit hsmall, Char.ofNat_toNat]
    · rename_i hlarge
      have hread : readPieces (c :: cs) =
          (readPieces cs).map fun (ps, rest) => (.char c :: ps, rest) := by
        rw [readPieces]
        · have hne : c ≠ '\\' := hbackslash
          exact if_neg (by simp [hlarge, hne])
        · exact hquote
        · rintro - - - - - rfl
          exact absurd rfl hbackslash
        · rintro - - rfl
          exact absurd rfl hbackslash
      exact readText_of_piece hread hchar

/-- A text is read back from its escaped characters, up to the quote behind them. -/
theorem readText_escaped (cs rest : List Char) :
    readText (cs.flatMap escapedChar ++ '"' :: rest) = some (some cs, rest) := by
  induction cs with
  | nil => rfl
  | cons c cs ih =>
    rw [List.flatMap_cons, List.append_assoc, readText_escapedChar, ih]
    rfl

/-! ## Numbers -/

/-- No character stands here that would go on with a number. -/
def Ends (rest : List Char) : Prop :=
  ∀ c ∈ rest.head?, c.isDigit = false ∧ c ≠ '.' ∧ c ≠ 'e' ∧ c ≠ 'E'

theorem spanDigits_append {ds rest : List Char} (hds : ∀ c ∈ ds, c.isDigit = true)
    (hrest : Ends rest) : spanDigits (ds ++ rest) = (ds, rest) := by
  rw [spanDigits, List.span_eq_takeWhile_dropWhile, List.takeWhile_append_of_pos hds,
    List.dropWhile_append_of_pos hds]
  cases rest with
  | nil => simp
  | cons c rest =>
    have hc : c.isDigit = false := (hrest c rfl).1
    simp [hc]

theorem exists_toDigits_eq_cons (n : Nat) :
    ∃ c cs, Nat.toDigits 10 n = c :: cs ∧ c.isDigit = true := by
  obtain ⟨c, cs, hds⟩ := List.exists_cons_of_ne_nil (Nat.toDigits_ne_nil : Nat.toDigits 10 n ≠ [])
  have hmem : c ∈ Nat.toDigits 10 n := hds ▸ List.mem_cons_self
  exact ⟨c, cs, hds, Nat.isDigit_of_mem_toDigits (by decide) (by decide) hmem⟩

theorem readWhole?_toDigits {n : Nat} {rest : List Char} (hrest : Ends rest) :
    readWhole? (Nat.toDigits 10 n ++ rest) = some (Nat.toDigits 10 n, rest) := by
  rcases Nat.eq_zero_or_pos n with rfl | hn
  · show readWhole? ('0' :: rest) = some (['0'], rest)
    cases rest with
    | nil => rfl
    | cons c rest =>
      have hc : c.isDigit = false := (hrest c rfl).1
      simp [readWhole?, hc]
  · have hspan : spanDigits (Nat.toDigits 10 n ++ rest) = (Nat.toDigits 10 n, rest) :=
      spanDigits_append (fun c hc => Nat.isDigit_of_mem_toDigits (by decide) (by decide) hc) hrest
    have hhead : (Nat.toDigits 10 n).head? ≠ some '0' := VmAdmission.Numeral.head?_digits_ne_zero hn
    obtain ⟨c, cs, hds, -⟩ := exists_toDigits_eq_cons n
    rw [hds] at hspan hhead ⊢
    have hc : c ≠ '0' := fun he => hhead (congrArg some he)
    rw [List.cons_append] at hspan ⊢
    rw [readWhole?, readDigits?, hspan]
    exact fun _ he => hc (List.cons.inj he).1

theorem readFraction?_of_ends {rest : List Char} (h : Ends rest) :
    readFraction? rest = some (none, rest) := by
  cases rest with
  | nil => rfl
  | cons c rest =>
    have hc : c ≠ '.' := (h c rfl).2.1
    rw [readFraction?]
    exact fun _ he => hc (List.cons.inj he).1

theorem readExponent?_of_ends {rest : List Char} (h : Ends rest) :
    readExponent? rest = some (none, rest) := by
  cases rest with
  | nil => rfl
  | cons c rest =>
    obtain ⟨-, -, hlower, hupper⟩ := h c rfl
    simp [readExponent?, hlower, hupper]

/-- A natural number is read back from its digits. -/
theorem readNumeral?_toDigits {n : Nat} {rest : List Char} (h : Ends rest) :
    readNumeral? (Nat.toDigits 10 n ++ rest) =
      some (⟨false, Nat.toDigits 10 n, none, none⟩, rest) := by
  have hwhole := readWhole?_toDigits (n := n) h
  obtain ⟨c, cs, hds, hc⟩ := exists_toDigits_eq_cons n
  rw [hds, List.cons_append] at hwhole ⊢
  have hsign : c ≠ '-' := by
    rintro rfl
    exact absurd hc (by decide)
  rw [readNumeral?]
  · simp only [hwhole, readFraction?_of_ends h, readExponent?_of_ends h, Option.bind_eq_bind,
      Option.bind_some, Option.pure_def]
  · exact fun _ he => hsign (List.cons.inj he).1

theorem toDatum_toDigits {n : Nat} (h : n < UInt64.size) :
    (⟨false, Nat.toDigits 10 n, none, none⟩ : Numeral).toDatum = .int n := by
  simp [Numeral.toDatum, Numeral.value, Nat.ofDigitChars_ten_toDigits, h]

end VmAdmission.Json
