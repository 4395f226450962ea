/-!
TOML values, and tables as they grow line by line. A table remembers how it came to be, because
that decides how it may be extended.
-/

namespace BundleBinding.Toml

/-- How a table came to be. -/
inductive Origin where
  /-- By its own header. -/
  | header
  /-- On the way to a table with a longer header. -/
  | onTheWay
  /-- By the periods in a key. -/
  | dotted
  /-- As a value in braces. -/
  | inlined
  deriving Repr, DecidableEq

namespace Origin

/-- Tables that nothing has defined yet may still be extended by keys with periods. -/
def isOpen (origin : Origin) : Bool :=
  origin == onTheWay || origin == dotted

end Origin

inductive Item where
  | string (text : String)
  | boolean (value : Bool)
  | number
  | moment
  | array (items : List Item)
  | table (origin : Origin) (entries : List (String × Item))
  /-- Tables that each begin with a doubled header. -/
  | tables (elements : List (List (String × Item)))
  deriving Repr

/-- The entries of a table, in the order in which their keys first came. -/
abbrev Entries := List (String × Item)

namespace Entries

/-- Changes what is under a key, or adds the key. -/
def alter (key : String) (change : Option Item → Option Item) : Entries → Option Entries
  | [] => (change none).map fun value => [(key, value)]
  | entry :: entries =>
      if entry.1 == key then (change (some entry.2)).map fun value => (key, value) :: entries
      else (alter key change entries).map (entry :: ·)

def add (key : String) (value : Item) (entries : Entries) : Option Entries :=
  entries.alter key fun
    | none => some value
    | some _ => none

/-- Changes the table at the end of a path, making the tables on the way that are not there. Of
several tables the last is meant. Values are never extended, and a path of dots leads through no
table that has been defined. -/
def descend (dots : Bool) (change : Origin → Entries → Option Entries) (origin : Origin)
    (entries : Entries) : List String → Option Entries
  | [] => change origin entries
  | key :: path =>
      entries.alter key fun
        | none =>
            let made := if dots then Origin.dotted else .onTheWay
            (descend dots change made [] path).map (Item.table made)
        | some (.table .inlined _) => none
        | some (.table origin entries) =>
            if dots && !origin.isOpen then none
            else (descend dots change origin entries path).map (Item.table origin)
        | some (.tables elements) =>
            match elements.getLast? with
            | some entries =>
                (descend dots change .header entries path).map fun changed =>
                  Item.tables (elements.dropLast ++ [changed])
            | none => none
        | some _ => none

/-- Adds a value under a key with periods. The table that takes it is the given one itself, or one
that such keys have made. -/
def addPath (path : List String) (key : String) (value : Item) (origin : Origin)
    (entries : Entries) : Option Entries :=
  let change (reached : Origin) (entries : Entries) : Option Entries :=
    if !path.isEmpty && reached != .dotted then none else entries.add key value
  entries.descend true change origin path

/-- Begins the table of a header. It may have been passed on the way to another, but not defined. -/
def openTable (path : List String) (key : String) (entries : Entries) : Option Entries :=
  let change (_ : Origin) (entries : Entries) : Option Entries :=
    entries.alter key fun
      | none => some (.table .header [])
      | some (.table .onTheWay entries) => some (.table .header entries)
      | some _ => none
  entries.descend false change .header path

/-- Begins one more table of a doubled header. -/
def openElement (path : List String) (key : String) (entries : Entries) : Option Entries :=
  let change (_ : Origin) (entries : Entries) : Option Entries :=
    entries.alter key fun
      | none => some (.tables [[]])
      | some (.tables elements) => some (.tables (elements ++ [[]]))
      | some _ => none
  entries.descend false change .header path

/-- Adds a value to the table that the last header has begun. -/
def addBelow (header : List String) (path : List String) (key : String) (value : Item)
    (entries : Entries) : Option Entries :=
  entries.descend false (fun _ entries => entries.addPath path key value .header) .header header

end Entries

end BundleBinding.Toml
