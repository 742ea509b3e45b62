import VmAdmission.Proofs.Codec.RoundTrip
import VmAdmission.Proofs.Json.Tokens
import Mathlib.Data.List.DropRight

/-!
# JSON documents read back

A text is read as a datum (`Reads`) if reading takes exactly the text, whatever stands behind it.
The texts of plain data are put together from such texts, compactly or laid out in lines, and are
read as their data (`reads_compact`, `reads_layout`). What a codec that loses nothing writes is
therefore read back from its JSON text (`Codec.RoundTrips.survivesJson`).
-/

namespace VmAdmission

namespace Json

variable {depth level : Nat} {d : Datum} {items : List Datum} {members : List (String × Datum)}
  {text others gap : List Char}

/-! ## Blanks -/

theorem isBlank_of_mem_newLine {c : Char} (hc : c ∈ newLine level) : isBlank c = true := by
  rcases List.mem_cons.1 hc with rfl | hc
  · rfl
  · rw [List.eq_of_mem_replicate hc]
    rfl

theorem ends_cons {c : Char} {rest : List Char}
    (hc : c.isDigit = false ∧ c ≠ '.' ∧ c ≠ 'e' ∧ c ≠ 'E') : Ends (c :: rest) := by
  rintro _ ⟨⟩
  exact hc

/-- No number goes on with a blank. -/
theorem ends_blanks_append {rest : List Char} (hgap : ∀ c ∈ gap, isBlank c = true)
    (hrest : Ends rest) : Ends (gap ++ rest) := by
  cases gap with
  | nil => exact hrest
  | cons b gap =>
    have hb : isBlank b = true := hgap b List.mem_cons_self
    simp only [isBlank, Bool.or_eq_true, decide_eq_true_eq] at hb
    rcases hb with ((rfl | rfl) | rfl) | rfl <;> exact ends_cons (by decide)

theorem dropWhile_isBlank {c : Char} {rest : List Char} (hgap : ∀ c ∈ gap, isBlank c = true)
    (hc : ¬ isBlank c = true) : (gap ++ c :: rest).dropWhile isBlank = c :: rest := by
  rw [List.dropWhile_append_of_pos hgap, List.dropWhile_cons_of_neg hc]

theorem readValue_dropWhile {fuel : Nat} {cs : List Char} :
    readValue fuel depth (cs.dropWhile isBlank) = readValue fuel depth cs := by
  cases fuel with
  | zero => rfl
  | succ fuel => simp only [readValue, List.dropWhile_idempotent]

/-! ## Tokens -/

section

variable {fuel : Nat} {cs : List Char}

theorem readValue_quote :
    readValue (fuel + 1) depth ('"' :: cs) =
      match readText cs with
      | some (some content, rest) => (.text (.ofList content), some rest)
      | some (none, rest) => (.damaged .valueless, some rest)
      | none => unreadable := rfl

/-- A digit starts nothing but a number. -/
theorem readValue_digit {c : Char} (hc : c.isDigit = true) :
    readValue (fuel + 1) depth (c :: cs) =
      match readNumeral? (c :: cs) with
      | some (n, rest) => (n.toDatum, some rest)
      | none => unreadable := by
  have hne {b : Char} (hb : b.isDigit = false) : c ≠ b := by
    rintro rfl
    exact absurd hc (hb ▸ Bool.false_ne_true)
  have hblank : ¬ isBlank c = true := by
    simp [isBlank, hne (b := ' ') rfl, hne (b := '\t') rfl, hne (b := '\n') rfl,
      hne (b := '\r') rfl]
  rw [readValue, List.dropWhile_cons_of_neg hblank]
  split
  case h_7 => rfl
  all_goals
    rename_i heq
    exact absurd (List.cons.inj heq).1 (hne rfl)

/-- No item starts with a closing bracket. -/
theorem readItems_closing {rest : List Char} (h : cs.dropWhile isBlank = ']' :: rest) :
    (readItems fuel depth cs).2 = none := by
  cases fuel with
  | zero => rfl
  | succ fuel =>
    have hread : readValue fuel depth cs = unreadable := by
      rw [← readValue_dropWhile, h]
      cases fuel <;> rfl
    rw [readItems, hread]
    rfl

/-- No member starts with a closing brace. -/
theorem readMembers_closing {rest : List Char} (h : cs.dropWhile isBlank = '}' :: rest) :
    (readMembers fuel depth cs).2 = none := by
  cases fuel with
  | zero => rfl
  | succ fuel =>
    rw [readMembers, h]
    rfl

theorem readValue_list {rest : List Char}
    (h : readItems fuel depth cs = (items, some rest)) :
    readValue (fuel + 1) (depth + 1) ('[' :: cs) = (.list items, some rest) := by
  have hblank : ¬ isBlank '[' = true := nofun
  simp only [readValue, List.dropWhile_cons_of_neg hblank, Nat.add_sub_cancel]
  split
  · rename_i hclosing
    exact absurd (h ▸ readItems_closing hclosing) (Option.some_ne_none _)
  · rw [h]
    rfl

theorem readValue_record {rest : List Char}
    (h : readMembers fuel depth cs = (⟨members, none⟩, some rest)) :
    readValue (fuel + 1) (depth + 1) ('{' :: cs) = (.record members, some rest) := by
  have hblank : ¬ isBlank '{' = true := nofun
  simp only [readValue, List.dropWhile_cons_of_neg hblank, Nat.add_sub_cancel]
  split
  · rename_i hclosing
    exact absurd (h ▸ readMembers_closing hclosing) (Option.some_ne_none _)
  · rw [h]
    rfl

end

/-! ## Texts of values, items and members -/

/-- The text is read as the datum, whatever stands behind it, where so many more lists and records
may be opened. -/
def Reads (depth : Nat) (d : Datum) (text : List Char) : Prop :=
  ∀ fuel rest, 2 * text.length ≤ fuel → Ends rest →
    readValue (fuel + 1) depth (text ++ rest) = (d, some rest)

/-- The text is read as the items of a list, up to the bracket behind it. -/
def ReadsItems (depth : Nat) (items : List Datum) (text : List Char) : Prop :=
  ∀ fuel gap rest, 2 * text.length ≤ fuel → (∀ c ∈ gap, isBlank c = true) →
    readItems (fuel + 2) depth (text ++ (gap ++ ']' :: rest)) = (items, some rest)

/-- The text is read as the members of a record, up to the brace behind it. -/
def ReadsMembers (depth : Nat) (members : List (String × Datum)) (text : List Char) : Prop :=
  ∀ fuel gap rest, 2 * text.length ≤ fuel → (∀ c ∈ gap, isBlank c = true) →
    readMembers (fuel + 2) depth (text ++ (gap ++ '}' :: rest)) = (⟨members, none⟩, some rest)

/-! ### Scalars -/

theorem reads_null : Reads depth .null ['n', 'u', 'l', 'l'] := fun _ _ _ _ => rfl

theorem reads_true : Reads depth (.bool true) ['t', 'r', 'u', 'e'] := fun _ _ _ _ => rfl

theorem reads_false : Reads depth (.bool false) ['f', 'a', 'l', 's', 'e'] := fun _ _ _ _ => rfl

theorem reads_quote (s : String) : Reads depth (.text s) (quote s) := by
  intro fuel rest _ _
  have hquote : quote s ++ rest = '"' :: (s.toList.flatMap escapedChar ++ '"' :: rest) := by
    simp [quote]
  rw [hquote, readValue_quote, readText_escaped]
  exact congrArg (Datum.text ·, some rest) String.ofList_toList

theorem reads_toDigits {n : Nat} (h : n < UInt64.size) :
    Reads depth (.int n) (Nat.toDigits 10 n) := by
  intro fuel rest _ hrest
  have hread := readNumeral?_toDigits (n := n) hrest
  have hdatum := toDatum_toDigits h
  obtain ⟨c, cs, hds, hc⟩ := exists_toDigits_eq_cons n
  rw [hds] at hread hdatum ⊢
  rw [List.cons_append] at hread ⊢
  rw [readValue_digit hc, hread]
  exact congrArg (·, some rest) hdatum

/-! ### Lists and records -/

theorem reads_nil : Reads (depth + 1) (.list []) ['[', ']'] := fun _ _ _ _ => rfl

theorem reads_empty : Reads (depth + 1) (.record []) ['{', '}'] := fun _ _ _ _ => rfl

section

variable (hgap : ∀ c ∈ gap, isBlank c = true)

include hgap

/-- Blanks in front of a text are passed over. -/
theorem Reads.behind (h : Reads depth d text) : Reads depth d (gap ++ text) := by
  intro fuel rest hfuel hrest
  rw [List.length_append] at hfuel
  have hdrop : (gap ++ (text ++ rest)).dropWhile isBlank = (text ++ rest).dropWhile isBlank :=
    List.dropWhile_append_of_pos hgap
  rw [List.append_assoc, ← readValue_dropWhile, hdrop, readValue_dropWhile]
  exact h fuel rest (by omega) hrest

theorem ReadsItems.list (h : ReadsItems depth items text) :
    Reads (depth + 1) (.list items) ('[' :: text ++ gap ++ [']']) := by
  intro fuel rest hfuel _
  simp only [List.length_append, List.length_cons, List.length_nil] at hfuel
  obtain ⟨fuel, rfl⟩ := Nat.exists_eq_add_of_le' (show 2 ≤ fuel by omega)
  have hitems := h fuel gap rest (by omega) hgap
  simpa using readValue_list hitems

theorem ReadsMembers.record (h : ReadsMembers depth members text) :
    Reads (depth + 1) (.record members) ('{' :: text ++ gap ++ ['}']) := by
  intro fuel rest hfuel _
  simp only [List.length_append, List.length_cons, List.length_nil] at hfuel
  obtain ⟨fuel, rfl⟩ := Nat.exists_eq_add_of_le' (show 2 ≤ fuel by omega)
  have hmembers := h fuel gap rest (by omega) hgap
  simpa using readValue_record hmembers

end

theorem readsItems_singleton (h : Reads depth d text) : ReadsItems depth [d] text := by
  intro fuel gap rest hfuel hgap
  have hitem := h fuel (gap ++ ']' :: rest) hfuel (ends_blanks_append hgap (ends_cons (by decide)))
  have hdrop : (gap ++ ']' :: rest).dropWhile isBlank = ']' :: rest :=
    dropWhile_isBlank hgap nofun
  simp only [readItems, hitem, hdrop]

theorem readsItems_cons (h : Reads depth d text) (hs : ReadsItems depth items others) :
    ReadsItems depth (d :: items) (text ++ ',' :: others) := by
  intro fuel gap rest hfuel hgap
  simp only [List.length_append, List.length_cons] at hfuel
  obtain ⟨fuel, rfl⟩ := Nat.exists_eq_add_of_le' (show 1 ≤ fuel by omega)
  have hitem := h (fuel + 1) (',' :: (others ++ (gap ++ ']' :: rest))) (by omega)
    (ends_cons (by decide))
  have hitems := hs fuel gap rest (by omega) hgap
  have hcomma : ¬ isBlank ',' = true := nofun
  rw [List.append_assoc, List.cons_append, readItems, hitem]
  simp only [List.dropWhile_cons_of_neg hcomma, hitems]

/-- Behind blanks a member starts with its key. -/
theorem dropWhile_key {key : String} {cs : List Char} (hgap : ∀ c ∈ gap, isBlank c = true) :
    (gap ++ quote key ++ ':' :: cs).dropWhile isBlank =
      '"' :: (key.toList.flatMap escapedChar ++ '"' :: ':' :: cs) := by
  have hquote : ¬ isBlank '"' = true := nofun
  rw [List.append_assoc, quote, List.cons_append, List.cons_append,
    dropWhile_isBlank hgap hquote, List.append_assoc, List.singleton_append]

theorem readsMembers_singleton {key : String} {front : List Char}
    (hfront : ∀ c ∈ front, isBlank c = true) (h : Reads depth d text) :
    ReadsMembers depth [(key, d)] (front ++ quote key ++ ':' :: text) := by
  intro fuel gap rest hfuel hgap
  simp only [List.length_append, List.length_cons] at hfuel
  have hvalue := h fuel (gap ++ '}' :: rest) (by omega)
    (ends_blanks_append hgap (ends_cons (by decide)))
  have hcolon : ¬ isBlank ':' = true := nofun
  have hdrop : (gap ++ '}' :: rest).dropWhile isBlank = '}' :: rest :=
    dropWhile_isBlank hgap nofun
  rw [List.append_assoc, List.cons_append, readMembers, dropWhile_key hfront]
  simp only
  rw [readText_escaped]
  simp only [List.dropWhile_cons_of_neg hcolon, hvalue, hdrop, Members.cons, Members.none,
    String.ofList_toList]

theorem readsMembers_cons {key : String} {front : List Char}
    (hfront : ∀ c ∈ front, isBlank c = true) (h : Reads depth d text)
    (hs : ReadsMembers depth members others) :
    ReadsMembers depth ((key, d) :: members)
      (front ++ quote key ++ ':' :: text ++ ',' :: others) := by
  intro fuel gap rest hfuel hgap
  simp only [List.length_append, List.length_cons] at hfuel
  obtain ⟨fuel, rfl⟩ := Nat.exists_eq_add_of_le' (show 1 ≤ fuel by omega)
  have hvalue := h (fuel + 1) (',' :: (others ++ (gap ++ '}' :: rest))) (by omega)
    (ends_cons (by decide))
  have hmembers := hs fuel gap rest (by omega) hgap
  have hcolon : ¬ isBlank ':' = true := nofun
  have hcomma : ¬ isBlank ',' = true := nofun
  rw [List.append_assoc, List.append_assoc (front ++ quote key), List.cons_append,
    List.cons_append, readMembers, dropWhile_key hfront]
  simp only
  rw [readText_escaped]
  simp only [List.dropWhile_cons_of_neg hcolon, hvalue, List.dropWhile_cons_of_neg hcomma,
    hmembers, Members.cons, String.ofList_toList]

/-! ## Written texts -/

/-- Items are read from their texts joined by commas. -/
theorem readsItems_joined {write : Datum → List Char} {join : List Datum → List Char}
    (hone : ∀ item, join [item] = write item)
    (hmore : ∀ item next items,
      join (item :: next :: items) = write item ++ ',' :: join (next :: items))
    (hne : items ≠ []) (h : ∀ item ∈ items, Reads depth item (write item)) :
    ReadsItems depth items (join items) := by
  induction items with
  | nil => exact absurd rfl hne
  | cons item items ih =>
    rw [List.forall_mem_cons] at h
    cases items with
    | nil =>
      rw [hone]
      exact readsItems_singleton h.1
    | cons next items =>
      rw [hmore]
      exact readsItems_cons h.1 (ih (List.cons_ne_nil _ _) h.2)

/-- Members are read from their keys and their values' texts joined by commas, with blanks in front
of the keys. -/
theorem readsMembers_joined {write : Datum → List Char}
    {join : List (String × Datum) → List Char} {front : List Char}
    (hfront : ∀ c ∈ front, isBlank c = true)
    (hone : ∀ key value, join [(key, value)] = front ++ quote key ++ ':' :: write value)
    (hmore : ∀ key value next members, join ((key, value) :: next :: members) =
      front ++ quote key ++ ':' :: write value ++ ',' :: join (next :: members))
    (hne : members ≠ []) (h : ∀ m ∈ members, Reads depth m.2 (write m.2)) :
    ReadsMembers depth members (join members) := by
  induction members with
  | nil => exact absurd rfl hne
  | cons m members ih =>
    obtain ⟨key, value⟩ := m
    rw [List.forall_mem_cons] at h
    cases members with
    | nil =>
      rw [hone]
      exact readsMembers_singleton hfront h.1
    | cons next members =>
      rw [hmore]
      exact readsMembers_cons hfront h.1 (ih (List.cons_ne_nil _ _) h.2)

/-- Plain data are read back from their compact texts. -/
theorem reads_compact (h : d.Plain depth) : Reads depth d (compact d) := by
  have hnone : ∀ c ∈ [], isBlank c = true := nofun
  induction h with
  | null => exact reads_null
  | bool b =>
    cases b with
    | true => exact reads_true
    | false => exact reads_false
  | int h => exact reads_toDigits h
  | text s => exact reads_quote s
  | @list _ items h ih =>
    cases items with
    | nil => exact reads_nil
    | cons item items =>
      have hitems : ReadsItems _ (item :: items) (compactItems (item :: items)) :=
        readsItems_joined (fun _ => rfl) (fun _ _ _ => rfl) (List.cons_ne_nil _ _) ih
      have hlist := hitems.list hnone
      rw [List.append_nil] at hlist
      exact hlist
  | @record _ members h ih =>
    cases members with
    | nil => exact reads_empty
    | cons m members =>
      have hmembers : ReadsMembers _ (m :: members) (compactMembers (m :: members)) :=
        readsMembers_joined hnone (fun _ _ => rfl) (fun _ _ _ _ => rfl) (List.cons_ne_nil _ _) ih
      have hrecord := hmembers.record hnone
      rw [List.append_nil] at hrecord
      exact hrecord

/-- Plain data are read back from their texts in lines. -/
theorem reads_layout (h : d.Plain depth) : Reads depth d (layout level d) := by
  have hline {level : Nat} : ∀ c ∈ newLine level, isBlank c = true := fun _ =>
    isBlank_of_mem_newLine
  have hblank : ∀ c ∈ [' '], isBlank c = true := by simp [isBlank]
  induction h generalizing level with
  | null => exact reads_compact .null
  | bool b => exact reads_compact (.bool b)
  | int h => exact reads_compact (.int h)
  | text s => exact reads_compact (.text s)
  | @list _ items h ih =>
    cases items with
    | nil => exact reads_nil
    | cons item items =>
      have hitems : ReadsItems _ (item :: items) (layoutItems (level + 1) (item :: items)) :=
        readsItems_joined (fun _ => rfl) (fun _ _ _ => rfl) (List.cons_ne_nil _ _)
          fun item hitem => (ih item hitem).behind hline
      exact hitems.list hline
  | @record _ members h ih =>
    cases members with
    | nil => exact reads_empty
    | cons m members =>
      have hmembers : ReadsMembers _ (m :: members) (layoutMembers (level + 1) (m :: members)) :=
        readsMembers_joined hline (fun _ _ => rfl) (fun _ _ _ _ => rfl) (List.cons_ne_nil _ _)
          fun m hm => (ih m hm).behind hblank
      exact hmembers.record hline

/-- Blanks may stand behind what a document holds. -/
theorem Document.ofText_of_reads (h : Reads nestingLimit d text)
    (hgap : ∀ c ∈ gap, isBlank c = true) :
    Document.ofText (.ofList (text ++ gap)) = ⟨d, true⟩ := by
  have hlength : 2 * text.length ≤ 2 * (text ++ gap).length + 1 := by
    rw [List.length_append]
    omega
  have hends : Ends gap := by
    rw [← List.append_nil gap]
    exact ends_blanks_append hgap nofun
  have hread := h (2 * (text ++ gap).length + 1) gap hlength hends
  rw [Document.ofText, String.toList_ofList]
  simp only [hread, Document.mk.injEq, true_and, List.all_eq_true]
  exact hgap

end Json

namespace Codec

variable {α : Type} {depth : Nat} {c : Codec α}

/-- Every value is read back from its JSON text, compact or laid out in lines. -/
def SurvivesJson (c : Codec α) : Prop :=
  ∀ x, Json.parse c (Json.render (c.write x)) = .ok x ∧
    Json.parse c (Json.renderLines (c.write x)) = .ok x

theorem parse_eq_of_reads {text gap : List Char} {x : α} (hlawful : c.Lawful)
    (h : Json.Reads Json.nestingLimit (c.write x) text)
    (hgap : ∀ ch ∈ gap, Json.isBlank ch = true) :
    Json.parse c (.ofList (text ++ gap)) = .ok x := by
  simp only [Json.parse, Json.Document.ofText_of_reads h hgap, hlawful .json x, if_true]

/-- What loses nothing in data loses nothing in texts, if it is not nested beyond the limit. -/
theorem RoundTrips.survivesJson (h : c.RoundTrips depth) (hdepth : depth ≤ Json.nestingLimit) :
    c.SurvivesJson := by
  intro x
  have hplain : (c.write x).Plain Json.nestingLimit := (h.plain x).mono hdepth
  have hparse {text : List Char} (hreads : Json.Reads Json.nestingLimit (c.write x) text) :
      Json.parse c (.ofList text) = .ok x := by
    rw [← List.append_nil text]
    exact parse_eq_of_reads h.lawful hreads nofun
  exact ⟨hparse (Json.reads_compact hplain), hparse (Json.reads_layout hplain)⟩

/-- Nor does a line feed at the end of the text do any harm. -/
theorem RoundTrips.parse_line (h : c.RoundTrips depth) (hdepth : depth ≤ Json.nestingLimit)
    (x : α) : Json.parse c (Json.renderLines (c.write x) ++ "\n") = .ok x := by
  have hplain : (c.write x).Plain Json.nestingLimit := (h.plain x).mono hdepth
  have hline : Json.renderLines (c.write x) ++ "\n" =
      .ofList (Json.layout 0 (c.write x) ++ ['\n']) := by
    rw [String.ofList_append]
    rfl
  rw [hline]
  exact parse_eq_of_reads h.lawful (Json.reads_layout hplain) (by simp [Json.isBlank])

end Codec

end VmAdmission
