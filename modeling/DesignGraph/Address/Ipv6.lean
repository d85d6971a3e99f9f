import DesignGraph.Text.Digits
import DesignGraph.Text.Pieces

/-!
# Numeric addresses of eight groups

Such an address is written between brackets as eight groups of hexadecimal digits with
colons between them. Two colons in a row stand for one zero group or more, and the last
two groups may be spelled as four bytes in decimal. In its normal form the first of the
longest runs of zero groups is left out, unless it is a single group.
-/

namespace DesignGraph.Address

open Text

/-- An address of eight groups of sixteen bits. -/
structure Ipv6 where
  groups : List UInt16
  eight : groups.length = 8
  deriving DecidableEq, Repr

namespace Ipv6

/-- A group: one to four hexadecimal digits. -/
def readGroup? (text : List Char) : Option UInt16 :=
  if 4 < text.length then none else (number? 16 text).map UInt16.ofNat

/-- A byte in decimal, without zeros before it. -/
def readByte? (text : List Char) : Option Nat :=
  match text with
  | '0' :: _ :: _ => none
  | _ => (number? 10 text).filter (· ≤ 255)

/-- The two groups that four bytes with dots between them stand for. -/
def readBytes? (text : List Char) : Option (List UInt16) := do
  match ← (pieces '.' text).mapM readByte? with
  | [a, b, c, d] => some [UInt16.ofNat (a * 0x100 + b), UInt16.ofNat (c * 0x100 + d)]
  | _ => none

/-- The groups with colons between them; at the end of an address also four bytes. -/
def readGroups? (atEnd : Bool) : List (List Char) → Option (List UInt16)
  | [] => some []
  | [last] =>
    match readGroup? last with
    | some group => some [group]
    | none => if atEnd then readBytes? last else none
  | group :: rest => do return (← readGroup? group) :: (← readGroups? atEnd rest)

/-- The groups of a text; an empty one has none. -/
def groupsOf? (atEnd : Bool) (text : List Char) : Option (List UInt16) :=
  if text.isEmpty then some [] else readGroups? atEnd (pieces ':' text)

/-- What stands before the first two colons in a row, and what stands after them. -/
def splitGap? : List Char → Option (List Char × List Char)
  | ':' :: ':' :: rest => some ([], rest)
  | c :: rest => (splitGap? rest).map fun (before, after) => (c :: before, after)
  | [] => none

/-- The address of these groups, if they are as many as it takes. -/
def ofGroups? (groups : List UInt16) : Option Ipv6 :=
  if eight : groups.length = 8 then some { groups, eight } else none

def read? (text : List Char) : Option Ipv6 :=
  match splitGap? text with
  | none => do ofGroups? (← groupsOf? true text)
  | some (before, after) => do
    let first ← groupsOf? false before
    let last ← groupsOf? true after
    let known := first.length + last.length
    if 7 < known then none
    else ofGroups? (first ++ List.replicate (8 - known) 0 ++ last)

/-- How many zero groups stand at the beginning. -/
def zerosAt (groups : List UInt16) : Nat := (groups.takeWhile (· == 0)).length

/-- The length of the longest run of zero groups. -/
def longestZeros : List UInt16 → Nat
  | [] => 0
  | group :: rest => max (zerosAt (group :: rest)) (longestZeros rest)

/-- What stands before the first run of this many zero groups, and what stands after it. -/
def splitZeros (count : Nat) : List UInt16 → List UInt16 × List UInt16
  | [] => ([], [])
  | group :: rest =>
    if zerosAt (group :: rest) = count then ([], (group :: rest).drop count)
    else
      let (before, after) := splitZeros count rest
      (group :: before, after)

def groupsText (groups : List UInt16) : List Char :=
  [':'].intercalate (groups.map fun group => hexadecimal group.toNat)

/-- The address as it is written, without its brackets. -/
def text (address : Ipv6) : List Char :=
  let zeros := longestZeros address.groups
  if zeros < 2 then groupsText address.groups
  else
    let (before, after) := splitZeros zeros address.groups
    groupsText before ++ [':', ':'] ++ groupsText after

end Ipv6

end DesignGraph.Address
