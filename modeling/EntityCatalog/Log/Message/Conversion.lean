import EntityCatalog.Log.Message.Place
import EntityCatalog.Number.Reduced
import EntityCatalog.Value.Literal

/-!
# Conversions of arguments

The letter of a place says how its argument is shown: `s` by its plain text, `r` by its literal
text, `a` by its literal text in ASCII, `c` as a character, `d`, `i` and `u` as an integer in
decimal, `o` and `x` as one in octal and in hexadecimal, `f`, `e` and `g` as a floating-point
number in fixed, scientific and general notation. The capitals of the letters for hexadecimal and
for floating-point numbers ask for capitals.
-/

namespace EntityCatalog

/-- Which text of an argument is shown. -/
inductive TextForm where
  | plain
  | literal
  | ascii
deriving DecidableEq, Repr

/-- The text of a value in a form. -/
def TextForm.text : TextForm → Value → String
  | .plain, value => value.plainText
  | .literal, value => value.literal
  | .ascii, value => Text.inAscii value.literal

/-- How an argument is shown. -/
inductive PlaceConversion where
  | text (form : TextForm)
  | character
  | integer (base : Nat)
  | float (layout : Number.Layout)
deriving DecidableEq, Repr

/-- The conversions by their letters. -/
def PlaceConversion.lettered : List (Char × PlaceConversion) :=
  [('s', .text .plain), ('r', .text .literal), ('a', .text .ascii), ('c', .character),
    ('d', .integer 10), ('i', .integer 10), ('u', .integer 10), ('o', .integer 8),
    ('x', .integer 16), ('X', .integer 16), ('f', .float .fixed), ('F', .float .fixed),
    ('e', .float .scientific), ('E', .float .scientific), ('g', .float .general),
    ('G', .float .general)]

namespace Value

/-- The value of a hexadecimal digit. -/
def hexadecimalDigit? (character : Char) : Option Nat :=
  if character.isDigit then some (character.toNat - '0'.toNat)
  else if 'a' ≤ character ∧ character ≤ 'f' then some (character.toNat - 'a'.toNat + 10)
  else none

/-- The number that the hexadecimal digits of a text write; other characters are passed over. -/
def hexadecimalValue (content : String) : Nat :=
  (content.toList.filterMap hexadecimalDigit?).foldl (fun value digit => 16 * value + digit) 0

/-- A finite number of which there is room for the integer part. -/
def roomy (number : Number.Reduced) : Except MessageError Number.Reduced :=
  if (PlaceStyle.greatestWidth : Int) < number.wholeDigits then .error .noRoom else .ok number

/-- The integer that a value is, if it is of a type of integers. -/
def integer? : Value → Option Int
  | .scalar (.integer number) => some number
  | .scalar (.boolean truth) => some (if truth then 1 else 0)
  | _ => none

/-- The number that a value stands for at a place for integers in decimal. -/
def decimalNumber (conversion : Char) : Value → Except MessageError Number.Reduced
  | .scalar (.integer number) => .ok (.ofInteger number)
  | .scalar (.boolean truth) => .ok (.ofInteger (if truth then 1 else 0))
  | .scalar (.float number) =>
      match Number.parts number with
      | .finite negative significand exponent =>
          roomy (.ofBinary negative significand exponent)
      | .infinite _ => .error (.infiniteNumber "float infinity")
      | .notANumber => .error (.undefinedNumber "float NaN")
  | .scalar (.decimal number) =>
      match number with
      | .finite negative coefficient exponent =>
          roomy (.ofParts negative coefficient exponent)
      | .infinite _ => .error (.infiniteNumber "Infinity")
      | .notANumber .. => .error (.undefinedNumber "NaN")
  | .scalar (.uuid content) => .ok (.ofInteger (hexadecimalValue content))
  | value => .error (.notANumber conversion value.typeName)

/-- The number whose integer part is shown for a value at a place for integers in a base. -/
def numberIn (base : Nat) (conversion : Char) (value : Value) :
    Except MessageError Number.Reduced :=
  if base = 10 then value.decimalNumber conversion
  else match value.integer? with
    | some number => .ok (.ofInteger number)
    | none => .error (.notAnInteger conversion value.typeName)

/-- The floating-point number that a value stands for. -/
def nearestFloat (value : Value) : Except MessageError Float :=
  match value with
  | .scalar (.integer number) =>
      let nearest := Number.ofInteger number
      if (Number.reduced? nearest).isSome then .ok nearest else .error .hugeNumber
  | .scalar (.boolean truth) => .ok (if truth then 1 else 0)
  | .scalar (.float number) => .ok number
  | .scalar (.decimal (.notANumber _ true _)) => .error .signalingNumber
  | .scalar (.decimal number) => .ok number.toFloat
  | value => .error (.notReal value.typeName)

/-- The code point that a value is, or of which it is the number. -/
def codePoint (value : Value) : Except MessageError Nat :=
  match value, value.integer? with
  | .scalar (.text content), _ =>
      match Text.codePoints content.toList with
      | [code] => .ok code
      | _ => .error .notACharacter
  | _, some number =>
      if 0 ≤ number ∧ number < 0x110000 then .ok number.toNat else .error .outsideCodePoints
  | _, none => .error .notACharacter

end Value

/-- The greatest precision with which an integer can be written. -/
def PlaceStyle.greatestPrecision : Nat := Nat.pow 2 31 - 4

/-- What an argument is at a place with a conversion, in small letters. -/
def PlaceConversion.content (conversion : PlaceConversion) (letter : Char) (style : PlaceStyle)
    (argument : Value) : Except MessageError PlaceContent :=
  match conversion with
  | .text form => .ok (style.textContent (form.text argument))
  | .character => argument.codePoint.map fun code => .text (Text.spelling code)
  | .integer base => do
      let number ← argument.numberIn base letter
      if PlaceStyle.greatestPrecision < style.precision.getD 0 then throw .excessivePrecision
      if base = 10 ∧ (MessageError.greatestDigits : Int) < number.wholeDigits then
        throw .tooManyDigits
      pure (style.integerContent base number.truncated)
  | .float layout => argument.nearestFloat.map (style.floatContent layout)

/-- An argument at a place with a letter, which is given by its code point. -/
def PlaceStyle.placeArgument (style : PlaceStyle) (code position : Nat)
    (argument : Value) : Except MessageError (List Char) :=
  let letter := Char.ofNat code
  match PlaceConversion.lettered.lookup letter with
  | none => .error (.unsupported code position)
  | some conversion => do
      let content ← conversion.content letter style argument
      if PlaceStyle.greatestWidth < style.width then throw .noRoom
      pure (style.place (if letter.isUpper then content.capitals else content))

end EntityCatalog
