/-!
# Text as bytes

The bytes of a text in UTF-8, and two ways back: strict reading knows only whole
characters, lenient reading takes each longest run of bytes that begins a character and
then breaks off for one replacement character.
-/

namespace DesignGraph.Text

abbrev Bytes := List UInt8

def utf8 (text : String) : Bytes := text.toList.flatMap String.utf8EncodeChar

/-- The text that the bytes spell; none when they are not UTF-8. -/
def ofUtf8? (bytes : Bytes) : Option String := String.fromUTF8? bytes.toByteArray

/-- The bytes of a text spell the text. -/
theorem ofUtf8?_utf8 (text : String) : ofUtf8? (utf8 text) = some text := by
  have hbytes : (utf8 text).toByteArray = text.toByteArray := String.utf8Encode_toList
  rw [ofUtf8?, String.fromUTF8?, hbytes, dif_pos text.isValidUTF8]
  rfl

/-- The bytes that may follow a lead byte, one range for each place; none for a byte
that leads nothing. -/
def continuationRanges (lead : UInt8) : List (UInt8 × UInt8) :=
  if 0xC2 ≤ lead ∧ lead ≤ 0xDF then [(0x80, 0xBF)]
  else if lead = 0xE0 then [(0xA0, 0xBF), (0x80, 0xBF)]
  else if lead = 0xED then [(0x80, 0x9F), (0x80, 0xBF)]
  else if 0xE1 ≤ lead ∧ lead ≤ 0xEF then [(0x80, 0xBF), (0x80, 0xBF)]
  else if lead = 0xF0 then [(0x90, 0xBF), (0x80, 0xBF), (0x80, 0xBF)]
  else if 0xF1 ≤ lead ∧ lead ≤ 0xF3 then [(0x80, 0xBF), (0x80, 0xBF), (0x80, 0xBF)]
  else if lead = 0xF4 then [(0x80, 0x8F), (0x80, 0xBF), (0x80, 0xBF)]
  else []

/-- The leading bytes that lie in the given ranges, place by place. -/
def continuationBytes : List (UInt8 × UInt8) → Bytes → Bytes
  | (low, high) :: ranges, b :: bytes =>
    if low ≤ b ∧ b ≤ high then b :: continuationBytes ranges bytes else []
  | _, _ => []

/-- The bits that a lead byte gives to its character, by the number of bytes that follow. -/
def leadBits (lead : UInt8) : Nat → Nat
  | 0 => lead.toNat
  | 1 => lead.toNat % 0x20
  | 2 => lead.toNat % 0x10
  | _ => lead.toNat % 0x08

/-- The text that the bytes spell, with a replacement character for each broken piece. -/
def decodeLossy : Bytes → List Char
  | [] => []
  | lead :: bytes =>
    if lead < 0x80 then Char.ofNat lead.toNat :: decodeLossy bytes
    else
      let ranges := continuationRanges lead
      let more := continuationBytes ranges bytes
      if ranges ≠ [] ∧ more.length = ranges.length then
        Char.ofNat (more.foldl (fun n b => n * 0x40 + b.toNat % 0x40) (leadBits lead more.length))
          :: decodeLossy (bytes.drop more.length)
      else '\uFFFD' :: decodeLossy (bytes.drop more.length)
termination_by bytes => bytes.length
decreasing_by all_goals simp only [List.length_cons, List.length_drop]; omega

end DesignGraph.Text
