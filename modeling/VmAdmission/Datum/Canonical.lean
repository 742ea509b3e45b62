import VmAdmission.Datum

/-!
# Canonical order

Of repeated keys the last one holds, and keys stand in the order of their code points. Data that
say the same of every key are then the same.
-/

namespace VmAdmission.Datum

/-- Members without those whose key comes again. -/
def lastOfEach : List (String × Datum) → List (String × Datum)
  | [] => []
  | (key, value) :: members =>
    if members.any (·.1 = key) then lastOfEach members
    else (key, value) :: lastOfEach members

/-- Members in the order of their keys. -/
def sortedByKey (members : List (String × Datum)) : List (String × Datum) :=
  members.mergeSort fun a b => a.1 ≤ b.1

mutual

/-- The datum with all its records in canonical order. -/
def canonical : Datum → Datum
  | .list items => .list (canonicalItems items)
  | .record members => .record (sortedByKey (lastOfEach (canonicalMembers members)))
  | .table members => .table (sortedByKey (lastOfEach (canonicalMembers members)))
  | datum => datum

/-- The items in canonical order within. -/
def canonicalItems : List Datum → List Datum
  | [] => []
  | item :: items => item.canonical :: canonicalItems items

/-- The members with canonical values. -/
def canonicalMembers : List (String × Datum) → List (String × Datum)
  | [] => []
  | (key, value) :: members => (key, value.canonical) :: canonicalMembers members

end

end VmAdmission.Datum
