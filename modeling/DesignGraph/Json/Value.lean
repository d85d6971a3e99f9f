import DesignGraph.Json.Number

/-!
# JSON values

Objects list their members in the order in which they are written. A member that is
put into an object takes its place by its key; a key that is already there takes the new
value.
-/

namespace DesignGraph.Json

/-- A JSON value. -/
inductive Value where
  | null
  | bool (b : Bool)
  | number (n : Number)
  | string (s : String)
  | array (items : List Value)
  | object (members : List (String × Value))
  deriving Repr

/-- The members, sorted by key, with this one put in. -/
def putMember {α : Type} (key : String) (value : α) : List (String × α) → List (String × α)
  | [] => [(key, value)]
  | (k, v) :: rest =>
    if key < k then (key, value) :: (k, v) :: rest
    else if key = k then (key, value) :: rest
    else (k, v) :: putMember key value rest

def member? {α : Type} (key : String) (members : List (String × α)) : Option α :=
  (members.find? fun m => m.1 == key).map Prod.snd

namespace Value

/-- The value of a key, if this is an object that has it. -/
def get? (value : Value) (key : String) : Option Value :=
  match value with
  | .object members => member? key members
  | _ => none

def ofStrings (strings : List String) : Value := .array (strings.map .string)

end Value

end DesignGraph.Json
