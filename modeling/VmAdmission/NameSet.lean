import VmAdmission.Codec.Basic

/-!
# Sets of names

A set of names is the ascending list of its members, compared by code points and without
repetition.
-/

namespace VmAdmission

/-- A set of names. -/
abbrev NameSet := List String

namespace NameSet

/-- The set with a name in it. -/
def insert (s : String) : NameSet → NameSet
  | [] => [s]
  | t :: set => if s = t then t :: set else if s < t then s :: t :: set else t :: insert s set

/-- The set of the names in a list. -/
def ofList (names : List String) : NameSet := names.foldl (fun set s => insert s set) []

theorem mem_insert {s t : String} {set : NameSet} : t ∈ insert s set ↔ t = s ∨ t ∈ set := by
  induction set with
  | nil => simp [insert]
  | cons u set ih =>
    unfold insert
    split
    · simp_all
    · split
      · simp
      · rw [List.mem_cons, List.mem_cons, ih]
        exact or_left_comm

theorem mem_foldl_insert {t : String} {names : List String} {set : NameSet} :
    t ∈ names.foldl (fun set s => insert s set) set ↔ t ∈ names ∨ t ∈ set := by
  induction names generalizing set with
  | nil => simp
  | cons s names ih =>
    rw [List.foldl_cons, ih, mem_insert, List.mem_cons, or_assoc]
    exact or_left_comm

theorem mem_ofList {t : String} {names : List String} : t ∈ ofList names ↔ t ∈ names := by
  simp [ofList, mem_foldl_insert]

/-- The codec of sets of names, as lists. -/
def codec : Codec NameSet where
  read d datum := (Codec.text.list.read d datum).map ofList
  write := Codec.text.list.write

end NameSet

end VmAdmission
