import EntityCatalog.Log.Message.Error
import EntityCatalog.Number.Layout
import EntityCatalog.Text.Point

/-!
# Places of messages

A place has flags, a least width and a precision. What is shown at a place is a text, which is
filled up with blanks, or a number, which is filled up with blanks in front of its sign or with
zeros behind it.
-/

namespace EntityCatalog

/-- What a place says besides its conversion. -/
structure PlaceStyle where
  flags : List Char
  width : Nat
  precision : Option Nat
deriving DecidableEq, Repr

/-- What is shown at a place, before it is filled up to the width. -/
inductive PlaceContent where
  | text (characters : List Char)
  /-- A number by its sign, the mark of its base, and its digits. -/
  | number (negative : Bool) (mark digits : List Char)
deriving DecidableEq, Repr

namespace PlaceStyle

/-- The flags that a place may start with. -/
def flagLetters : List Char := ['-', '+', ' ', '#', '0']

/-- The most characters that a place has room for. -/
def greatestWidth : Nat := Nat.pow 2 36

/-- Whether a flag is given. -/
def has (style : PlaceStyle) (flag : Char) : Bool := style.flags.contains flag

/-- A style with a width; a negative one asks for blanks behind what is shown. -/
def withWidth (style : PlaceStyle) (width : Int) : PlaceStyle :=
  { style with
    flags := if width < 0 then '-' :: style.flags else style.flags
    width := width.natAbs }

/-- Fills a text up to the width with blanks, behind it if a minus flag is given. -/
def fill (style : PlaceStyle) (content : List Char) : List Char :=
  let blanks := List.replicate (style.width - Text.pointCount content) ' '
  if style.has '-' then content ++ blanks else blanks ++ content

/-- The sign of a number, or what stands in its place. -/
def sign (style : PlaceStyle) (negative : Bool) : List Char :=
  if negative then ['-'] else if style.has '+' then ['+'] else if style.has ' ' then [' '] else []

/-- What is shown at a place, filled up to the width. -/
def place (style : PlaceStyle) : PlaceContent → List Char
  | .text characters => style.fill characters
  | .number negative mark digits =>
      let opening := style.sign negative ++ mark
      let zeros :=
        if style.has '0' && !style.has '-' then
          List.replicate (style.width - (opening.length + digits.length)) '0'
        else []
      style.fill (opening ++ zeros ++ digits)

/-- A text, cut off at the precision. -/
def textContent (style : PlaceStyle) (content : String) : PlaceContent :=
  .text (match style.precision with
    | some count => ((Text.codePoints content.toList).take count).flatMap Text.spelling
    | none => content.toList)

/-- The mark of a base that an explicit number starts with. -/
def baseMark (style : PlaceStyle) (base : Nat) : List Char :=
  if !style.has '#' then []
  else if base = 8 then ['0', 'o']
  else if base = 16 then ['0', 'x']
  else []

/-- An integer in a base, with at least as many digits as the precision asks for. -/
def integerContent (style : PlaceStyle) (base : Nat) (number : Int) : PlaceContent :=
  let digits := Nat.toDigits base number.natAbs
  .number (number < 0) (style.baseMark base)
    (List.replicate (style.precision.getD 0 - digits.length) '0' ++ digits)

/-- The precision of floating-point numbers unless one is given. -/
def standardPrecision : Nat := 6

/-- A floating-point number in a layout. -/
def floatContent (style : PlaceStyle) (layout : Number.Layout) (number : Float) : PlaceContent :=
  match Number.parts number with
  | .finite negative significand exponent =>
      let ratio := Number.powerOfTwoRatio significand exponent
      .number negative []
        (layout.text (style.has '#') ratio.1 ratio.2 (style.precision.getD standardPrecision))
  | .infinite negative => .number negative [] "inf".toList
  | .notANumber => .number false [] "nan".toList

end PlaceStyle

/-- What is shown at a place, in capital letters. -/
def PlaceContent.capitals : PlaceContent → PlaceContent
  | .text characters => .text (characters.map Char.toUpper)
  | .number negative mark digits =>
      .number negative (mark.map Char.toUpper) (digits.map Char.toUpper)

namespace PlaceStyle

/-- A place is never narrower than its width. -/
theorem width_le_pointCount_fill (style : PlaceStyle) (content : List Char) :
    style.width ≤ Text.pointCount (style.fill content) := by
  have blank : (' ' != Text.opener) = true := by decide
  unfold fill Text.pointCount
  split <;> simp only [List.countP_append, List.countP_replicate, blank, if_true] <;> omega

end PlaceStyle

end EntityCatalog
