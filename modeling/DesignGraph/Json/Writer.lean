import DesignGraph.Json.Value

/-!
# Writing JSON

Values are written without any blanks. In a string, quotes, backslashes and the controls
below the space are escaped, five of them by a letter; every other character stands for
itself. So a written value is one line, whatever it holds.
-/

namespace DesignGraph.Json

def hexDigit (n : Nat) : Char := Nat.digitChar (n % 16)

def writeChar (c : Char) : List Char :=
  match c with
  | '"' => ['\\', '"']
  | '\\' => ['\\', '\\']
  | '\x08' => ['\\', 'b']
  | '\x0c' => ['\\', 'f']
  | '\n' => ['\\', 'n']
  | '\r' => ['\\', 'r']
  | '\t' => ['\\', 't']
  | _ =>
    if c.toNat < 0x20 then ['\\', 'u', '0', '0', hexDigit (c.toNat / 16), hexDigit c.toNat]
    else [c]

def writeString (s : String) : List Char := '"' :: s.toList.flatMap writeChar ++ ['"']

mutual

def Value.write : Value → List Char
  | .null => "null".toList
  | .bool true => "true".toList
  | .bool false => "false".toList
  | .number n => n.text
  | .string s => writeString s
  | .array items => '[' :: writeItems items
  | .object members => '\x7b' :: writeMembers members

/-- The items of an array with the closing bracket. -/
def writeItems : List Value → List Char
  | [] => [']']
  | [item] => item.write ++ [']']
  | item :: rest => item.write ++ ',' :: writeItems rest

/-- The members of an object with the closing brace. -/
def writeMembers : List (String × Value) → List Char
  | [] => ['\x7d']
  | [(key, value)] => writeString key ++ ':' :: value.write ++ ['\x7d']
  | (key, value) :: rest => writeString key ++ ':' :: value.write ++ ',' :: writeMembers rest

end

def Value.line (value : Value) : String := String.ofList value.write

end DesignGraph.Json
