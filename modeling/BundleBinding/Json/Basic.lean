import BundleBinding.Number.Binary

/-!
JSON values. Integers and floating-point numbers are different numbers, and the members of an object
stand in the order of their names.
-/

namespace BundleBinding

inductive JsonNumber where
  | integer (value : Int)
  | float (value : Double)
  deriving Repr, DecidableEq

inductive Json where
  | null
  | bool (value : Bool)
  | number (value : JsonNumber)
  | string (value : String)
  | array (items : List Json)
  | object (members : List (String × Json))
  deriving Repr, Inhabited

namespace Json

def integer (value : Int) : Json :=
  number (.integer value)

/-- A floating-point number, or null where there is no number to write. -/
def float (value : Double) : Json :=
  if value.isFinite then number (.float value) else null

/-- The members with `value` under `name`, replacing one of that name and keeping the order. -/
def insertMember {α : Type} (name : String) (value : α) : List (String × α) → List (String × α)
  | [] => [(name, value)]
  | member :: members =>
      if name < member.1 then (name, value) :: member :: members
      else if name = member.1 then (name, value) :: members
      else member :: insertMember name value members

/-- The object with these members; of two with one name the later counts. -/
def ofMembers (members : List (String × Json)) : Json :=
  object (members.foldl (fun sorted member => insertMember member.1 member.2 sorted) [])

def member? (json : Json) (name : String) : Option Json :=
  match json with
  | object members => (members.find? fun member => member.1 == name).map Prod.snd
  | _ => none

def bool? : Json → Option Bool
  | bool value => some value
  | _ => none

def string? : Json → Option String
  | string value => some value
  | _ => none

def array? : Json → Option (List Json)
  | array items => some items
  | _ => none

def int64? : Json → Option Int
  | number (.integer value) =>
      if -Int.pow 2 63 ≤ value ∧ value < Int.pow 2 63 then some value else none
  | _ => none

/-- The value of any number, an integer rounded to the nearest. -/
def double? : Json → Option Double
  | number (.integer value) => some (Double.ofInt value)
  | number (.float value) => some value
  | _ => none

end Json

end BundleBinding
