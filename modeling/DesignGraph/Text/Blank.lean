/-!
# Blank characters

The characters with the property White_Space. Trimming, line shapes and arrows all
skip these.
-/

namespace DesignGraph.Text

/-- The property White_Space: the five controls from tab to carriage return, the space,
and the wide and no-break spaces and separators beyond ASCII. -/
def isBlank (c : Char) : Bool :=
  let n := c.toNat
  (9 ≤ n && n ≤ 13) || n == 0x20 || n == 0x85 || n == 0xA0 || n == 0x1680 ||
    (0x2000 ≤ n && n ≤ 0x200A) || n == 0x2028 || n == 0x2029 || n == 0x202F ||
    n == 0x205F || n == 0x3000

end DesignGraph.Text
