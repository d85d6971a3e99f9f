import DesignGraph.Text.Digits
import DesignGraph.Text.Utf8

/-!
# Percent signs

Each part of an address refuses some characters. They are written byte by byte as a
percent sign and two hexadecimal digits. Reading the bytes back does not fail: a percent
sign without two digits stands for itself.
-/

namespace DesignGraph.Address

open Text

def upperHexDigit (n : Nat) : Char := (Nat.digitChar (n % 16)).toUpper

/-- A byte as a percent sign and two digits. -/
def percentByte (b : UInt8) : List Char :=
  ['%', upperHexDigit (b.toNat / 16), upperHexDigit b.toNat]

/-- A character as percent signs and digits, byte by byte. -/
def percentChar (c : Char) : List Char := (String.utf8EncodeChar c).flatMap percentByte

/-- The text with every character that is refused written as percent signs and digits. -/
def percentEncode (refused : Char → Bool) (text : List Char) : List Char :=
  text.flatMap fun c => if refused c then percentChar c else [c]

/-- The bytes that a text spells with percent signs. -/
def percentDecode : List Char → Bytes
  | '%' :: high :: low :: rest =>
    match digitValue? 16 high, digitValue? 16 low with
    | some high, some low => UInt8.ofNat (high * 16 + low) :: percentDecode rest
    | _, _ => String.utf8EncodeChar '%' ++ percentDecode (high :: low :: rest)
  | c :: rest => String.utf8EncodeChar c ++ percentDecode rest
  | [] => []

/-- Controls and characters beyond ASCII, which are refused everywhere. -/
def refusedAnywhere (c : Char) : Bool := c.toNat < 0x20 || 0x7F ≤ c.toNat

def refusedInFragment (c : Char) : Bool :=
  refusedAnywhere c || c == ' ' || c == '"' || c == '<' || c == '>' || c == '\x60'

def refusedInPath (c : Char) : Bool :=
  refusedInFragment c || c == '#' || c == '?' || c == '\x7b' || c == '\x7d'

/-- Refused in the name and password of a user. -/
def refusedInLogin (c : Char) : Bool := refusedInPath c || "/:;=@[\\]^|".toList.contains c

def refusedInQuery (special : Bool) (c : Char) : Bool :=
  refusedAnywhere c || c == ' ' || c == '"' || c == '#' || c == '<' || c == '>' ||
    (special && c == '\'')

/-- Refused in a name or value of a form, where a space becomes a plus sign. -/
def refusedInForm (c : Char) : Bool :=
  !(c.isAlphanum || c == '*' || c == '-' || c == '.' || c == '_' || c == ' ')

def formEncode (text : List Char) : List Char :=
  (percentEncode refusedInForm text).map fun c => if c = ' ' then '+' else c

/-- A text without refused characters stays as it is. -/
theorem percentEncode_of_none_refused {refused : Char → Bool} {text : List Char}
    (h : ∀ c ∈ text, refused c = false) : percentEncode refused text = text := by
  induction text with
  | nil => rfl
  | cons c rest ih =>
    have hc := h c List.mem_cons_self
    have hr := ih fun d hd => h d (List.mem_cons_of_mem c hd)
    simp only [percentEncode, List.flatMap_cons, hc] at hr ⊢
    simp [hr]

end DesignGraph.Address
