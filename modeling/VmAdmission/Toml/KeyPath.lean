import VmAdmission.Toml.Text

/-!
# Keys in TOML

A key is written plainly or as a text on one line, and several keys with dots between them lead from
a table down to an entry. `Entries` is what a table holds, in the order in which it was put there.
-/

namespace VmAdmission.Toml

/-! ## Paths -/

/-- Where an entry stands: the keys of the tables around it, and its own. -/
structure KeyPath where
  parents : List String
  key : String

/-- A character of a key without quotes. -/
def isBareKeyChar (c : Char) : Bool := c.isAlphanum || c = '_' || c = '-'

/-- Reads one key. -/
def readKey? : Reader String
  | '"' :: rest => (readBasic rest).map fun (cs, rest) => (.ofList cs, rest)
  | '\'' :: rest => (readLiteral rest).map fun (cs, rest) => (.ofList cs, rest)
  | cs =>
    let (key, rest) := cs.span isBareKeyChar
    if key.isEmpty then none else some (.ofList key, rest)

/-- Reads at most so many keys with dots between them, and the blanks around each. -/
def readKeys? : Nat → Reader KeyPath
  | 0, _ => none
  | limit + 1, cs => do
    let (key, cs) ← readKey? (skipBlanks cs)
    match skipBlanks cs with
    | '.' :: rest =>
      let (path, rest) ← readKeys? limit rest
      return (⟨key :: path.parents, path.key⟩, rest)
    | rest => return (⟨[], key⟩, rest)

/-- The number of keys that a path may have, and of lists and records that may be open at one
place. -/
def nestingLimit : Nat := 127

/-- Reads a path of keys. -/
def readPath? : Reader KeyPath := readKeys? nestingLimit

/-! ## Entries -/

/-- The entries of a table, by key. -/
abbrev Entries (α : Type) := List (String × α)

namespace Entries

variable {α β : Type}

/-- Changes the entry of a key in its place, or puts one at the end where there is none, and returns
what else the change yields. -/
def alter? (key : String) (change : Option α → Option (α × β)) :
    Entries α → Option (Entries α × β)
  | [] => (change none).map fun (x, y) => ([(key, x)], y)
  | (k, x) :: entries =>
    if k = key then (change (some x)).map fun (x, y) => ((k, x) :: entries, y)
    else (alter? key change entries).map fun (entries, y) => ((k, x) :: entries, y)

/-- Puts a new entry at the end; none if its key is taken. -/
def add? (key : String) (x : α) (entries : Entries α) : Option (Entries α) :=
  if entries.any fun (k, _) => k = key then none else some (entries ++ [(key, x)])

end Entries

end VmAdmission.Toml
