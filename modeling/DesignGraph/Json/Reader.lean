import DesignGraph.Json.Tree
import DesignGraph.Json.Value

/-!
# Reading JSON values

A tree makes a value when its strings are whole, its numbers are in range and its arrays
and objects are not nested too deeply. Members come out sorted by their keys, and of a
repeated key the last value counts.
-/

namespace DesignGraph.Json

def pairedChar (high low : Nat) : Char :=
  Char.ofNat (0x10000 + (high - 0xD800) * 0x400 + (low - 0xDC00))

/-- The characters of a string; none when half of a surrogate pair stands alone. -/
def Literal.chars? : Literal → Option (List Char)
  | [] => some []
  | .char c :: rest => (chars? rest).map (c :: ·)
  | .half high :: .half low :: rest =>
    if high < 0xDC00 ∧ 0xDC00 ≤ low then (chars? rest).map (pairedChar high low :: ·) else none
  | .half _ :: _ => none

def Literal.text (s : Literal) : Except Fault String :=
  match s.chars? with
  | some chars => .ok (String.ofList chars)
  | none => .error .unpairedSurrogate

/-- Arrays and objects may stand inside each other up to this depth. -/
def deepest : Nat := 127

mutual

/-- The value of a tree that may be nested up to a depth. -/
def Tree.toValue (depth : Nat) : Tree → Except Fault Value
  | .null => .ok .null
  | .bool b => .ok (.bool b)
  | .number n =>
    match n.value? with
    | some number => .ok (.number number)
    | none => .error .numberTooLarge
  | .string s => do return .string (← s.text)
  | .array items =>
    match depth with
    | 0 => .error .tooDeep
    | depth + 1 => do return .array (← itemValues depth items)
  | .object members =>
    match depth with
    | 0 => .error .tooDeep
    | depth + 1 => do return .object (← memberValues depth [] members)

def itemValues (depth : Nat) : List Tree → Except Fault (List Value)
  | [] => .ok []
  | item :: rest => do
    let value ← item.toValue depth
    return value :: (← itemValues depth rest)

/-- The members of an object, put one after the other into those found before. -/
def memberValues (depth : Nat) (found : List (String × Value)) :
    List (Literal × Tree) → Except Fault (List (String × Value))
  | [] => .ok found
  | (key, item) :: rest => do
    let key ← key.text
    let value ← item.toValue depth
    memberValues depth (putMember key value found) rest

end

def Value.read (text : String) : Except Fault Value := do
  (← Tree.ofText text.toList).toValue deepest

end DesignGraph.Json
