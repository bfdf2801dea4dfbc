import EntityCatalog.Text.Point

/-!
# Clipped texts

A text is clipped to a number of octets of its encoding. Where the limit cuts a character in two,
a replacement stands in its place.
-/

namespace EntityCatalog.Text

/-- The number of octets that the encoding of a code point takes. -/
def octetsOf (code : Nat) : Nat :=
  if code < 0x80 then 1 else if code < 0x800 then 2 else if code < 0x10000 then 3 else 4

/-- The number of octets that code points take. -/
def octetCount : List Nat → Nat
  | [] => 0
  | code :: rest => octetsOf code + octetCount rest

/-- The code points that there is room for, and a replacement for one that fits in part. -/
def clippedPoints : (room : Nat) → List Nat → List Nat
  | _, [] => []
  | room, code :: rest =>
      if octetsOf code ≤ room then code :: clippedPoints (room - octetsOf code) rest
      else if room = 0 then []
      else [replacement.toNat]

/-- A text, of which at most so many octets are kept. -/
def clipped (octets : Nat) (text : String) : String :=
  ofCodePoints (clippedPoints octets (codePoints text.toList))

/-- A text between apostrophes, none of its characters escaped, of at most so many octets. -/
def clippedName (octets : Nat) (text : String) : String := "'" ++ clipped octets text ++ "'"

/-- A text that there is room for is kept. -/
theorem clippedPoints_of_le {room : Nat} {codes : List Nat} (fits : octetCount codes ≤ room) :
    clippedPoints room codes = codes := by
  induction codes generalizing room with
  | nil => rfl
  | cons code rest ih =>
    rw [octetCount] at fits
    have first : octetsOf code ≤ room := by omega
    rw [clippedPoints, if_pos first, ih (by omega)]

end EntityCatalog.Text
