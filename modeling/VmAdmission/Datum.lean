/-!
# Data

The tree that a document of any notation holds. Records keep their members in the order of the
text, repeated keys included, so that a reader can say which fault comes first. A document whose
text goes wrong is a tree all the same: the part that could not be made out is `damaged`, and a
record that breaks off is `torn` behind its last good member. `Datum.isWhole` and
`Datum.isPassable` say which trees can be taken in and which can at least be passed over.
-/

namespace VmAdmission

/-- How badly a part of a text is damaged. -/
inductive Damage where
  /-- The text makes no sense here, and nothing behind it can be made out. -/
  | unreadable
  /-- The text is well formed but stands for no value, such as a number beyond all bounds. -/
  | valueless
deriving DecidableEq

/-- What a document holds. -/
inductive Datum where
  | null
  | bool (value : Bool)
  | int (value : Int)
  /-- A number that is not written as an integer, or is an integer beyond the machine's words. -/
  | decimal (literal : String)
  | text (value : String)
  | list (items : List Datum)
  | record (members : List (String × Datum))
  /-- A record written under a heading of its own. -/
  | table (members : List (String × Datum))
  /-- The members of a record before the place where its text goes wrong. -/
  | torn (members : List (String × Datum)) (damage : Damage)
  /-- A date, a time of day, or both. -/
  | moment
  | damaged (damage : Damage)

namespace Datum

mutual

/-- Whether nothing anywhere in the tree is damaged. -/
def isWhole : Datum → Bool
  | .list items => areWhole items
  | .record members | .table members => areMembersWhole members
  | .torn _ _ | .damaged _ => false
  | _ => true

/-- Whether nothing in the trees is damaged. -/
def areWhole : List Datum → Bool
  | [] => true
  | item :: items => item.isWhole && areWhole items

/-- Whether nothing in the members' values is damaged. -/
def areMembersWhole : List (String × Datum) → Bool
  | [] => true
  | (_, value) :: members => value.isWhole && areMembersWhole members

end

mutual

/-- Whether the text of the tree is well formed, so that a reader that ignores it can go on. -/
def isPassable : Datum → Bool
  | .list items => arePassable items
  | .record members | .table members => areMembersPassable members
  | .torn members damage => damage = .valueless && areMembersPassable members
  | .damaged damage => damage = .valueless
  | _ => true

/-- Whether the texts of the trees are well formed. -/
def arePassable : List Datum → Bool
  | [] => true
  | item :: items => item.isPassable && arePassable items

/-- Whether the texts of the members' values are well formed. -/
def areMembersPassable : List (String × Datum) → Bool
  | [] => true
  | (_, value) :: members => value.isPassable && areMembersPassable members

end

/-- The one key under which a moment shows to a reader that expects a record. -/
def momentKey : String := "$__toml_private_datetime"

/-- The members that a reader of records sees, and whether the record is complete. -/
def members? : Datum → Option (List (String × Datum) × Bool)
  | .record members | .table members => some (members, true)
  | .torn members _ => some (members, false)
  | .moment => some ([(momentKey, .moment)], true)
  | _ => none

end Datum

end VmAdmission
