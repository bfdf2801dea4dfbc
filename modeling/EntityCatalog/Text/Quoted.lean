import EntityCatalog.Text.Point
import EntityCatalog.Text.Printable

/-!
# Quoted text and quoted octets

A quoted text stands between two equal marks and shows every character: the mark in use and the
backslash are preceded by a backslash, the three usual control characters have a letter, and all
other characters that are not printable are written by code point in lower-case hexadecimal.
Octets are quoted in the same way, except that everything outside printable ASCII is written by
its two hexadecimal digits.
-/

namespace EntityCatalog.Text

/-- The apostrophe, the mark that is used unless only the other one avoids an escape. -/
def apostrophe : Char := '\x27'

/-- The double quotation mark. -/
def quotationMark : Char := '\x22'

/-- The backslash, which opens an escape. -/
def backslash : Char := '\x5c'

/-- The lower-case hexadecimal digits of a number, filled up with zeros to a width. -/
def hexadecimal (width number : Nat) : List Char :=
  let digits := Nat.toDigits 16 number
  List.replicate (width - digits.length) '0' ++ digits

/-- The mark around a text: an apostrophe, unless the text has apostrophes and no quotation mark. -/
def markFor (characters : List Char) : Char :=
  if apostrophe ∈ characters ∧ quotationMark ∉ characters then quotationMark else apostrophe

/-- The letter that names a control character in an escape, if it has one. -/
def controlLetter? (character : Char) : Option Char :=
  if character = '\n' then some 'n'
  else if character = '\r' then some 'r'
  else if character = '\t' then some 't'
  else none

/-- A code point in lower-case hexadecimal, as short as its size allows. -/
def codePointEscape (code : Nat) : List Char :=
  if code < 0x100 then backslash :: 'x' :: hexadecimal 2 code
  else if code < 0x10000 then backslash :: 'u' :: hexadecimal 4 code
  else backslash :: 'U' :: hexadecimal 8 code

/-- One code point as it stands between two marks. -/
def escaped (mark : Char) (code : Nat) : List Char :=
  let character := Char.ofNat code
  if isSurrogate code then codePointEscape code
  else if character = mark ∨ character = backslash then [backslash, character]
  else match controlLetter? character with
    | some letter => [backslash, letter]
    | none => if isPrintable character then [character] else codePointEscape code

/-- A text between marks, with every code point shown. -/
def quoted (text : String) : String :=
  let mark := markFor text.toList
  String.ofList (mark :: (codePoints text.toList).flatMap (escaped mark) ++ [mark])

/-- A text with every code point outside of ASCII in hexadecimal. -/
def inAscii (text : String) : String :=
  String.ofList ((codePoints text.toList).flatMap fun code =>
    if code < 0x80 then [Char.ofNat code] else codePointEscape code)

/-- Which octets between marks get a backslash although another mark is in use. -/
inductive OctetEscapes where
  /-- Only the mark in use is escaped. -/
  | markInUse
  /-- The apostrophe is escaped whichever mark is in use, and no other mark is. -/
  | everyApostrophe
deriving DecidableEq, Repr

/-- Whether an octet, taken as a character, is a mark that has to be escaped. -/
def OctetEscapes.covers (escapes : OctetEscapes) (mark character : Char) : Bool :=
  match escapes with
  | .markInUse => character == mark
  | .everyApostrophe => character == apostrophe

/-- One octet as it stands between two marks. -/
def escapedOctet (escapes : OctetEscapes) (mark : Char) (octet : UInt8) : List Char :=
  let character := Char.ofNat octet.toNat
  if escapes.covers mark character ∨ character = backslash then [backslash, character]
  else match controlLetter? character with
    | some letter => [backslash, letter]
    | none =>
      if 0x20 ≤ octet.toNat ∧ octet.toNat < 0x7f then [character]
      else backslash :: 'x' :: hexadecimal 2 octet.toNat

/-- Octets between marks, opened by the letter that sets them apart from a text. -/
def quotedOctets (escapes : OctetEscapes) (octets : List UInt8) : String :=
  let mark := markFor (octets.map fun octet => Char.ofNat octet.toNat)
  String.ofList ('b' :: mark :: octets.flatMap (escapedOctet escapes mark) ++ [mark])

/-- Every quoted text starts with its mark. -/
theorem toList_quoted (text : String) :
    (quoted text).toList = markFor text.toList ::
      (codePoints text.toList).flatMap (escaped (markFor text.toList)) ++
        [markFor text.toList] := by
  simp [quoted]

end EntityCatalog.Text
