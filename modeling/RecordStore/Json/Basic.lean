import RecordStore.Double.Basic

/-!
# JSON values

The members of an object keep the order in which their names first appeared.
A number is a whole number when it was written without fraction and exponent
and fits 64 bits; every other number is a double.
-/

namespace RecordStore

/-- A JSON value. -/
inductive Json where
  | null
  | boolean (flag : Bool)
  | integer (number : Int)
  | real (number : Double)
  | text (content : String)
  | array (elements : List Json)
  | object (members : List (String × Json))
  deriving BEq, Repr, Inhabited

namespace Json

/-- Sets a member: in its old place when the name is known, and at the end otherwise. -/
def setMember {α : Type} (name : String) (value : α) :
    List (String × α) → List (String × α)
  | [] => [(name, value)]
  | (known, old) :: rest =>
      if known = name then
        (known, value) :: rest
      else
        (known, old) :: setMember name value rest

/-- The members of an object that gets entries one after the other. -/
def setMembers {α : Type} (entries : List (String × α)) : List (String × α) :=
  entries.foldl (fun members entry => setMember entry.1 entry.2 members) []

/-- The value of the first member with a name. -/
def member? {α : Type} (name : String) : List (String × α) → Option α
  | [] => none
  | (known, value) :: rest =>
      if known = name then some value else member? name rest

end Json

end RecordStore
