import DesignGraph.Text.Digits

/-!
# Labels in ASCII

A label with characters beyond ASCII is spelled with letters, digits and hyphens: first
its ASCII characters, then a hyphen if there were any, then for each other character, in
the order of their code points, how far it is from the last one. Such a distance counts
the places in the label that are passed on the way, once for every code point, and is
written in digits of thirty-six that end by themselves: a digit below the threshold of
its place is the last one. The thresholds follow the distances seen so far.
-/

namespace DesignGraph.Address.Punycode

open Text

/-- A letter for a digit below twenty-six, a figure for the others. -/
def digitChar (n : Nat) : Char :=
  if n < 26 then Char.ofNat ('a'.toNat + n) else Char.ofNat ('0'.toNat + (n - 26))

def digitOf? (c : Char) : Option Nat :=
  if c.isDigit then some (c.toNat - '0'.toNat + 26)
  else if c.isAlpha then some (c.toLower.toNat - 'a'.toNat)
  else none

/-- The first code point that has to be spelled. -/
def firstCode : Nat := 0x80

/-- The bias before any distance has been seen. -/
def firstBias : Nat := 72

def largest : Nat := 0xFFFFFFFF

/-- The threshold of the digit at a place, the first one being place one. -/
def threshold (bias place : Nat) : Nat := max 1 (min 26 (place * 36 - bias))

theorem threshold_pos (bias place : Nat) : 0 < threshold bias place := by
  unfold threshold
  omega

/-- The bias for a distance that has been scaled down. -/
def biasOf (distance : Nat) (offset : Nat) : Nat :=
  if 455 < distance then biasOf (distance / 35) (offset + 36)
  else offset + 36 * distance / (distance + 38)
termination_by distance
decreasing_by exact Nat.div_lt_self (by omega) (by omega)

/-- The bias after a distance, when the label has this many characters. -/
def adapt (isFirst : Bool) (distance count : Nat) : Nat :=
  let scaled := if isFirst then distance / 700 else distance / 2
  biasOf (scaled + scaled / count) 0

/-- The digits of a distance, from a place on. -/
def distanceDigits (bias : Nat) (place distance : Nat) : List Char :=
  let t := threshold bias place
  if distance < t then [digitChar distance]
  else
    digitChar (t + (distance - t) % (36 - t)) ::
      distanceDigits bias (place + 1) ((distance - t) / (36 - t))
termination_by distance
decreasing_by
  have pos := threshold_pos bias place
  exact Nat.lt_of_le_of_lt (Nat.div_le_self _ _) (by omega)

/-- Where the spelling of a label stands. -/
structure Progress where
  written : List Char
  /-- The places that have been passed since the last character. -/
  distance : Nat
  bias : Nat
  /-- The characters that have been written. -/
  count : Nat
  isFirst : Bool
  deriving Repr

/-- A place of the label is passed on the way through a code point: a character that has
been written before counts, and the character of this code point is written. -/
def pass (code : Nat) (progress : Progress) (c : Char) : Progress :=
  if c.toNat < code then { progress with distance := progress.distance + 1 }
  else if c.toNat = code then
    { written := progress.written ++ distanceDigits progress.bias 1 progress.distance
      distance := 0
      bias := adapt progress.isFirst progress.distance (progress.count + 1)
      count := progress.count + 1
      isFirst := false }
  else progress

/-- The characters of these code points are written, the next code point being `code`. -/
def writeCodes (label : List Char) (progress : Progress) (code : Nat) : List Nat → Progress
  | [] => progress
  | next :: rest =>
    let start := { progress with
      distance := progress.distance + (next - code) * (progress.count + 1) }
    let done := label.foldl (pass next) start
    writeCodes label { done with distance := done.distance + 1 } (next + 1) rest

/-- The label in letters, digits and hyphens. -/
def encode (label : List Char) : List Char :=
  let basic := label.filter fun c => c.toNat < firstCode
  let codes := (label.map Char.toNat).filter (firstCode ≤ ·)
  let start : Progress :=
    { written := if basic.isEmpty then [] else basic ++ ['-']
      distance := 0
      bias := firstBias
      count := basic.length
      isFirst := true }
  (writeCodes label start firstCode (codes.mergeSort.eraseReps)).written

/-- A distance in digits from a place on, added to `sum` with this weight, and what
follows it. -/
def readDistance? (bias : Nat) (place weight sum : Nat) :
    List Char → Option (Nat × List Char)
  | [] => none
  | c :: rest => do
    let digit ← digitOf? c
    let sum := sum + digit * weight
    if largest < sum then none
    else
      let t := threshold bias place
      if digit < t then return (sum, rest)
      else if largest < weight * (36 - t) then none
      else readDistance? bias (place + 1) (weight * (36 - t)) sum rest

theorem length_lt_of_readDistance? {bias place weight sum : Nat} {text : List Char}
    {result : Nat × List Char} (h : readDistance? bias place weight sum text = some result) :
    result.2.length < text.length := by
  induction text generalizing place weight sum with
  | nil => simp [readDistance?] at h
  | cons c rest ih =>
    simp only [readDistance?, Option.bind_eq_bind, Option.bind_eq_some_iff] at h
    obtain ⟨digit, _, h⟩ := h
    split at h
    · simp at h
    · split at h
      · obtain rfl := Option.some.inj h
        simp
      · split at h
        · simp at h
        · exact Nat.lt_succ_of_lt (ih h)

/-- The label with the characters that the distances put into it. Counting goes on from
a code point and a place of the label. -/
def readCodes? (label : List Char) (bias code place : Nat) (text : List Char) :
    Option (List Char) :=
  if text.isEmpty then some label
  else
    match h : readDistance? bias 1 1 place text with
    | none => none
    | some (sum, rest) =>
      let count := label.length + 1
      let next := code + sum / count
      if next.isValidChar then
        readCodes? (label.insertIdx (sum % count) (Char.ofNat next))
          (adapt (place == 0) (sum - place) count) next (sum % count + 1) rest
      else none
termination_by text.length
decreasing_by exact length_lt_of_readDistance? h

/-- The ASCII characters before the last hyphen, and the distances after it. A hyphen at
the very beginning is no such hyphen. -/
def splitBasic (text : List Char) : List Char × List Char :=
  let distances := (text.reverse.takeWhile (· ≠ '-')).reverse
  let basic := text.take (text.length - distances.length - 1)
  if basic.isEmpty then ([], text) else (basic, distances)

/-- The label that is spelled in letters, digits and hyphens. -/
def decode? (text : List Char) : Option (List Char) :=
  let (basic, distances) := splitBasic text
  if basic.all fun c => c.toNat < firstCode then
    readCodes? basic firstBias firstCode 0 distances
  else none

end DesignGraph.Address.Punycode
