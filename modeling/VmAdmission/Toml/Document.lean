import VmAdmission.Toml.Value

/-!
# TOML documents

A document is read line by line into nested tables. Tables come about in three ways, by a heading
of their own, as the way to a deeper heading, and by dotted keys, and which of them it was decides
whether they may be opened again. A table is put into its parent when the next heading begins, so
the tables of a parent stand in the order in which they were finished.
-/

namespace VmAdmission.Toml

/-- How a table came about. -/
inductive TableOrigin where
  /-- It has a heading. -/
  | heading
  /-- A heading leads through it. -/
  | wayToHeading
  /-- Dotted keys lead through it. -/
  | dottedKeys
deriving DecidableEq

/-- An entry of a table. -/
inductive Item where
  | value (datum : Datum)
  | table (origin : TableOrigin) (entries : List (String × Item))
  /-- A list of tables, each under a heading. -/
  | tables (elements : List (List (String × Item)))

namespace Item

mutual

/-- The datum of an entry. -/
def toDatum : Item → Datum
  | .value datum => datum
  | .table _ entries => .table (membersOf entries)
  | .tables elements => .list (tablesOf elements)

/-- The members of a table with the given entries. -/
def membersOf : List (String × Item) → List (String × Datum)
  | [] => []
  | (key, item) :: entries => (key, item.toDatum) :: membersOf entries

/-- The tables with the given entries. -/
def tablesOf : List (List (String × Item)) → List Datum
  | [] => []
  | entries :: elements => .table (membersOf entries) :: tablesOf elements

end

end Item

/-! ## Ways through tables -/

/-- Changes the table at the end of a way, told how it came about. The way may be one of dotted keys
or one of a heading, and opens the tables that are not there. It leads through the last of a list of
tables, and never through a value; dotted keys lead through no table with a heading. -/
def atWay? {β : Type} (way : TableOrigin)
    (change : TableOrigin → Entries Item → Option (Entries Item × β)) :
    List String → TableOrigin → Entries Item → Option (Entries Item × β)
  | [], origin, entries => change origin entries
  | key :: keys, _, entries =>
    entries.alter? key fun
      | none => (atWay? way change keys way []).map fun (inner, y) => (.table way inner, y)
      | some (.table origin inner) =>
        if way = .dottedKeys && origin = .heading then none
        else (atWay? way change keys origin inner).map fun (inner, y) => (.table origin inner, y)
      | some (.tables elements) =>
        match elements.getLast? with
        | none => none
        | some inner =>
          (atWay? way change keys .heading inner).map fun (inner, y) =>
            (.tables (elements.dropLast ++ [inner]), y)
      | some (.value _) => none

/-- The entries of a table, with one more at the end of a way of dotted keys. All but the table at
the start must have come about by dotted keys. -/
def put? (path : KeyPath) (value : Datum) (entries : Entries Item) : Option (Entries Item) :=
  (atWay? .dottedKeys (fun origin entries =>
      if !path.parents.isEmpty && origin ≠ .dottedKeys then none
      else (entries.add? path.key (.value value)).map (·, ()))
    path.parents .heading entries).map Prod.fst

/-! ## Headings -/

/-- A heading. -/
structure Heading where
  path : KeyPath
  /-- Whether the table is one more of a list of tables. -/
  isElement : Bool

namespace Heading

/-- Puts the finished table of a heading into the tables around it. -/
def close? (h : Heading) (table root : Entries Item) : Option (Entries Item) :=
  (atWay? .wayToHeading (fun _ entries =>
      if h.isElement then
        entries.alter? h.path.key fun
          | none => some (.tables [table], ())
          | some (.tables elements) => some (.tables (elements ++ [table]), ())
          | some _ => none
      else (entries.add? h.path.key (.table .heading table)).map (·, ()))
    h.path.parents .heading root).map Prod.fst

/-- Opens the table of a heading: the tables around it, and what it holds already. A table that is
already there is taken out, and must have come about as the way to a heading. -/
def open? (h : Heading) (root : Entries Item) : Option (Entries Item × Entries Item) :=
  atWay? .wayToHeading (fun _ entries =>
      match entries.find? (·.1 = h.path.key) with
      | none =>
        some (if h.isElement then entries ++ [(h.path.key, .tables [])] else entries, [])
      | some (_, .tables _) => if h.isElement then some (entries, []) else none
      | some (_, .table .wayToHeading inner) =>
        if h.isElement then none else some (entries.eraseP (·.1 = h.path.key), inner)
      | some _ => none)
    h.path.parents .heading root

/-- Reads a heading, up to the end of its line. -/
def read? : Reader Heading
  | '[' :: '[' :: rest => do
    let (path, rest) ← readPath? rest
    let rest ← expect? ']' rest
    let rest ← expect? ']' rest
    return (⟨path, true⟩, ← endLine? rest)
  | '[' :: rest => do
    let (path, rest) ← readPath? rest
    let rest ← expect? ']' rest
    return (⟨path, false⟩, ← endLine? rest)
  | _ => none

end Heading

/-! ## Lines -/

/-- What is known in the middle of a document: the finished tables, and the one that is being
filled, under its heading if it has one. -/
structure Draft where
  finished : Entries Item
  heading : Option Heading
  current : Entries Item

namespace Draft

/-- A document's beginning. -/
def start : Draft := ⟨[], none, []⟩

/-- All tables, once the current one is finished. -/
def finish? (d : Draft) : Option (Entries Item) :=
  match d.heading with
  | none => some d.current
  | some h => h.close? d.current d.finished

/-- The draft behind one more line, and the text behind it. -/
def readLine? (d : Draft) (cs : List Char) : Option (Draft × List Char) :=
  match cs with
  | '[' :: _ => do
    let (heading, rest) ← Heading.read? cs
    let (finished, current) ← heading.open? (← d.finish?)
    return (⟨finished, heading, current⟩, rest)
  | '#' :: _ | '\n' :: _ | '\r' :: _ => (endLine? cs).map (d, ·)
  | _ => do
    let (path, rest) ← readPath? cs
    let rest ← expect? '=' rest
    let (value, rest) ← readValue? (skipBlanks rest)
    let rest ← endLine? rest
    return (⟨d.finished, d.heading, ← put? path value d.current⟩, rest)

/-- Reads all lines of a text. -/
def readLines? : Nat → Draft → List Char → Option Draft
  | 0, _, _ => none
  | fuel + 1, d, cs =>
    match skipBlanks cs with
    | [] => some d
    | cs => do
      let (d, rest) ← d.readLine? cs
      d.readLines? fuel rest

end Draft

/-- Reads a TOML document; none if its text goes wrong anywhere. A byte order mark in front is
passed over. -/
def read? (text : String) : Option Datum := do
  let cs :=
    match text.toList with
    | '\uFEFF' :: rest => rest
    | cs => cs
  let draft ← Draft.start.readLines? (cs.length + 1) cs
  return .table (Item.membersOf (← draft.finish?))

end VmAdmission.Toml
