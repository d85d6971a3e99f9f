import DesignGraph.Json.Number

/-!
# The written form of JSON

A text is first read into a tree that keeps everything as it is written: numbers by
their digits, members with repeated keys, and strings in which half of a surrogate pair
may stand alone. What of this makes a value is decided by whoever reads the tree, so
that a part nobody wants can be skipped without being judged.

The grammar is the strict one: four blanks, no sign before a positive number, no zero
before other digits, no control in a string, nothing after the value.
-/

namespace DesignGraph.Json

/-- Why a text is not read. -/
inductive Fault where
  /-- The text ends too early. -/
  | endOfText
  /-- A character that cannot stand where it stands. -/
  | unexpected (c : Char)
  /-- A control inside a string. -/
  | control (c : Char)
  /-- An escape that is none. -/
  | badEscape
  /-- A code that is half a surrogate pair. -/
  | unpairedSurrogate
  /-- A number beyond the binary format. -/
  | numberTooLarge
  /-- Arrays and objects inside each other beyond the limit. -/
  | tooDeep
  /-- A value of another kind than the one expected. -/
  | notA (kind : String)
  /-- A field that is given twice. -/
  | repeatedField (name : String)
  deriving DecidableEq, Repr

def Fault.message : Fault → String
  | .endOfText => "the text ends too early"
  | .unexpected c => "unexpected character " ++ String.singleton c
  | .control _ => "control character in a string"
  | .badEscape => "invalid escape"
  | .unpairedSurrogate => "unpaired surrogate"
  | .numberTooLarge => "number out of range"
  | .tooDeep => "nested too deeply"
  | .notA kind => "expected " ++ kind
  | .repeatedField name => "duplicate field " ++ name

/-- One unit of a string: a character, or half of a surrogate pair given by its code. -/
inductive Piece where
  | char (c : Char)
  | half (code : Nat)
  deriving DecidableEq, Repr

abbrev Literal := List Piece

/-- The tree of a text. -/
inductive Tree where
  | null
  | bool (b : Bool)
  | number (n : Numeral)
  | string (s : Literal)
  | array (items : List Tree)
  | object (members : List (Literal × Tree))
  deriving Repr

namespace Tree

def isSpace (c : Char) : Bool := c == ' ' || c == '\t' || c == '\n' || c == '\r'

def skipSpaces (text : List Char) : List Char := text.dropWhile isSpace

def hexValue? (c : Char) : Option Nat :=
  if '0' ≤ c ∧ c ≤ '9' then some (c.toNat - 48)
  else if 'a' ≤ c ∧ c ≤ 'f' then some (c.toNat - 87)
  else if 'A' ≤ c ∧ c ≤ 'F' then some (c.toNat - 55)
  else none

/-- The code that hexadecimal digits spell. -/
def code? (digits : List Char) : Option Nat :=
  digits.foldl (fun n c => (n.bind fun n => (hexValue? c).map (n * 16 + ·))) (some 0)

def pieceOfCode (code : Nat) : Piece :=
  if 0xD800 ≤ code ∧ code ≤ 0xDFFF then .half code else .char (Char.ofNat code)

/-- The character of an escape of one letter. -/
def escaped? : Char → Option Char
  | '"' => some '"'
  | '\\' => some '\\'
  | '/' => some '/'
  | 'b' => some '\x08'
  | 'f' => some '\x0c'
  | 'n' => some '\n'
  | 'r' => some '\r'
  | 't' => some '\t'
  | _ => none

/-- A unit put before what was read after it. -/
def consPiece (p : Piece) :
    Except Fault (Literal × List Char) → Except Fault (Literal × List Char)
  | .ok (literal, rest) => .ok (p :: literal, rest)
  | .error fault => .error fault

/-- The string that goes on here, up to its closing quote, and the text after it. -/
def literal : List Char → Except Fault (Literal × List Char)
  | [] => .error .endOfText
  | '"' :: rest => .ok ([], rest)
  | '\\' :: 'u' :: a :: b :: c :: d :: rest =>
    match code? [a, b, c, d] with
    | some code => consPiece (pieceOfCode code) (literal rest)
    | none => .error .badEscape
  | '\\' :: c :: rest =>
    match escaped? c with
    | some e => consPiece (.char e) (literal rest)
    | none => .error .badEscape
  | c :: rest =>
    if c = '\\' then .error .endOfText
    else if c.toNat < 0x20 then .error (.control c)
    else consPiece (.char c) (literal rest)

/-- The values of the digits at the start of a text, and the text after them. -/
def digits (text : List Char) : List Nat × List Char :=
  ((text.takeWhile Char.isDigit).map fun c => c.toNat - 48, text.dropWhile Char.isDigit)

def someDigits (text : List Char) : Except Fault (List Nat × List Char) :=
  match digits text with
  | ([], []) => .error .endOfText
  | ([], c :: _) => .error (.unexpected c)
  | found => .ok found

/-- The digits before the point: a zero alone, or digits that do not begin with one. -/
def wholeDigits (text : List Char) : Except Fault (List Nat × List Char) :=
  match text with
  | '0' :: c :: rest => if c.isDigit then .error (.unexpected c) else .ok ([0], c :: rest)
  | _ => someDigits text

/-- The digits after the point, if there is one. -/
def fractionDigits (text : List Char) : Except Fault (Option (List Nat) × List Char) :=
  match text with
  | '.' :: rest =>
    match someDigits rest with
    | .ok (found, rest) => .ok (some found, rest)
    | .error fault => .error fault
  | _ => .ok (none, text)

/-- A sign and the digits after it; true for a minus. -/
def signedDigits (text : List Char) : Except Fault ((Bool × List Nat) × List Char) :=
  let (negative, rest) := match text with
    | '+' :: rest => (false, rest)
    | '-' :: rest => (true, rest)
    | _ => (false, text)
  match someDigits rest with
  | .ok (found, rest) => .ok ((negative, found), rest)
  | .error fault => .error fault

def exponentDigits (text : List Char) :
    Except Fault (Option (Bool × List Nat) × List Char) :=
  match text with
  | c :: rest =>
    if c = 'e' ∨ c = 'E' then
      match signedDigits rest with
      | .ok (found, rest) => .ok (some found, rest)
      | .error fault => .error fault
    else .ok (none, text)
  | [] => .ok (none, [])

/-- A number at the start of a text, and the text after it. -/
def numeral (text : List Char) : Except Fault (Numeral × List Char) := do
  let (negative, rest) := match text with
    | '-' :: rest => (true, rest)
    | _ => (false, text)
  let (whole, rest) ← wholeDigits rest
  let (fraction, rest) ← fractionDigits rest
  let (exponent, rest) ← exponentDigits rest
  return (⟨negative, whole, fraction, exponent⟩, rest)

def word (expected : String) (tree : Tree) (text : List Char) : Except Fault (Tree × List Char) :=
  match expected.toList.isPrefixOf? text with
  | some rest => .ok (tree, rest)
  | none => .error (.unexpected (text.headD ' '))

/-- A value that is neither array nor object. -/
def atom (text : List Char) : Except Fault (Tree × List Char) :=
  match text with
  | [] => .error .endOfText
  | '"' :: rest => do
    let (s, rest) ← literal rest
    return (.string s, rest)
  | 'n' :: _ => word "null" .null text
  | 't' :: _ => word "true" (.bool true) text
  | 'f' :: _ => word "false" (.bool false) text
  | _ => do
    let (n, rest) ← numeral text
    return (.number n, rest)

mutual

/-- The value at the start of a text, and the text after it. Every second call takes a
character off the text, so `fuel` of twice its length is enough. -/
def value (fuel : Nat) (text : List Char) : Except Fault (Tree × List Char) :=
  match fuel with
  | 0 => .error .endOfText
  | fuel + 1 =>
    match skipSpaces text with
    | '[' :: rest =>
      match skipSpaces rest with
      | ']' :: rest => .ok (.array [], rest)
      | rest => do
        let (items, rest) ← items fuel rest
        return (.array items, rest)
    | '\x7b' :: rest =>
      match skipSpaces rest with
      | '\x7d' :: rest => .ok (.object [], rest)
      | rest => do
        let (members, rest) ← members fuel rest
        return (.object members, rest)
    | rest => atom rest

def items (fuel : Nat) (text : List Char) : Except Fault (List Tree × List Char) :=
  match fuel with
  | 0 => .error .endOfText
  | fuel + 1 => do
    let (item, rest) ← value fuel text
    match skipSpaces rest with
    | ',' :: rest =>
      let (more, rest) ← items fuel rest
      return (item :: more, rest)
    | ']' :: rest => return ([item], rest)
    | c :: _ => .error (.unexpected c)
    | [] => .error .endOfText

def members (fuel : Nat) (text : List Char) :
    Except Fault (List (Literal × Tree) × List Char) :=
  match fuel with
  | 0 => .error .endOfText
  | fuel + 1 =>
    match skipSpaces text with
    | '"' :: rest => do
      let (key, rest) ← literal rest
      match skipSpaces rest with
      | ':' :: rest =>
        let (item, rest) ← value fuel rest
        match skipSpaces rest with
        | ',' :: rest =>
          let (more, rest) ← members fuel rest
          return ((key, item) :: more, rest)
        | '\x7d' :: rest => return ([(key, item)], rest)
        | c :: _ => .error (.unexpected c)
        | [] => .error .endOfText
      | c :: _ => .error (.unexpected c)
      | [] => .error .endOfText
    | c :: _ => .error (.unexpected c)
    | [] => .error .endOfText

end

/-- The tree of a text that is one value and nothing else. -/
def ofText (text : List Char) : Except Fault Tree :=
  match value (2 * text.length + 2) text with
  | .ok (tree, rest) =>
    match skipSpaces rest with
    | [] => .ok tree
    | c :: _ => .error (.unexpected c)
  | .error fault => .error fault

end Tree

end DesignGraph.Json
