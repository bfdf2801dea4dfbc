import EntityCatalog.ErrorClass
import EntityCatalog.Text.Clipped
import EntityCatalog.Text.Quoted

/-!
# Errors of messages

Why a template and arguments make no message.
-/

namespace EntityCatalog

/-- The two numbers that a place may ask for besides its conversion. -/
inductive Measure where
  | width
  | precision
deriving DecidableEq, Repr

namespace Measure

/-- The word for a measure. -/
def text : Measure → String
  | .width => "width"
  | .precision => "precision"

/-- The count of bits of the signed words that hold a measure. -/
def bits : Measure → Nat
  | .width => 64
  | .precision => 32

/-- The name of the type of these words. -/
def wordName : Measure → String
  | .width => "ssize_t"
  | .precision => "int"

end Measure

/-- Why a template and arguments make no message. -/
inductive MessageError where
  /-- The template ends inside a place. -/
  | incomplete
  /-- The template ends inside the name of an argument. -/
  | incompleteName
  | tooFewArguments
  | tooManyArguments
  /-- A place names its argument, but the arguments have no names. -/
  | namedArgument
  /-- A place names an argument that there is not. -/
  | unknownName (name : String)
  /-- A measure is to be taken from an argument that is no integer. -/
  | measureNotInteger
  /-- A measure that is written in a template is too large. -/
  | writtenMeasureTooLarge (measure : Measure)
  /-- A measure that is taken from an argument is too large. -/
  | givenMeasureTooLarge (measure : Measure)
  /-- An integer is to have more digits than can be counted. -/
  | excessivePrecision
  /-- A place for a number in decimal gets a value of a type that stands for none. -/
  | notANumber (conversion : Char) (typeName : String)
  /-- A place for an integer in another base gets a value of another type. -/
  | notAnInteger (conversion : Char) (typeName : String)
  /-- A place for a floating-point number gets a value of a type that stands for none. -/
  | notReal (typeName : String)
  /-- A place for a character gets neither one nor an integer. -/
  | notACharacter
  /-- A place for a character gets an integer that is no code point. -/
  | outsideCodePoints
  /-- A place for an integer gets a number that is none. -/
  | undefinedNumber (name : String)
  /-- A place for an integer gets an infinite number. -/
  | infiniteNumber (name : String)
  /-- A place for an integer gets one with too many decimal digits. -/
  | tooManyDigits
  /-- A place for a floating-point number gets a decimal that signals. -/
  | signalingNumber
  /-- A place for a floating-point number gets an integer above all of them. -/
  | hugeNumber
  /-- A place is wider than there is room. -/
  | noRoom
  /-- No conversion goes by the code point at a position. -/
  | unsupported (code position : Nat)
deriving DecidableEq, Repr

namespace MessageError

/-- The most decimal digits of an integer. -/
def greatestDigits : Nat := 4300

/-- A code point as it is shown: those outside printable ASCII are replaced. -/
def shown (code : Nat) : Char := if 31 ≤ code ∧ code ≤ 126 then Char.ofNat code else '?'

/-- The wording of the refusal of a type at a place. -/
def refusal (conversion : Char) (wanted typeName : String) : String :=
  "%" ++ String.singleton conversion ++ " format: " ++ wanted ++ " is required, not " ++
    Text.clipped 200 typeName

/-- The wording of a message error. -/
def message : MessageError → String
  | .incomplete => "incomplete format"
  | .incompleteName => "incomplete format key"
  | .tooFewArguments => "not enough arguments for format string"
  | .tooManyArguments => "not all arguments converted during string formatting"
  | .namedArgument => "format requires a mapping"
  | .unknownName name => Text.quoted name
  | .measureNotInteger => "* wants int"
  | .writtenMeasureTooLarge measure => measure.text ++ " too big"
  | .givenMeasureTooLarge measure =>
      "Python int too large to convert to C " ++ measure.wordName
  | .excessivePrecision => "precision too large"
  | .notANumber conversion typeName => refusal conversion "a real number" typeName
  | .notAnInteger conversion typeName => refusal conversion "an integer" typeName
  | .notReal typeName => "must be real number, not " ++ Text.clipped 50 typeName
  | .notACharacter => "%c requires int or char"
  | .outsideCodePoints => "%c arg not in range(0x110000)"
  | .undefinedNumber name => "cannot convert " ++ name ++ " to integer"
  | .infiniteNumber name => "cannot convert " ++ name ++ " to integer"
  | .tooManyDigits =>
      "Exceeds the limit (" ++ toString greatestDigits ++ " digits) for integer string " ++
        "conversion; use sys.set_int_max_str_digits() to increase the limit"
  | .signalingNumber => "cannot convert signaling NaN to float"
  | .hugeNumber => "int too large to convert to float"
  | .noRoom => ""
  | .unsupported code position =>
      "unsupported format character '" ++ String.singleton (shown code) ++ "' (0x" ++
        String.ofList (Nat.toDigits 16 code) ++ ") at index " ++ toString position

/-- The class of a message error. -/
def errorClass : MessageError → ErrorClass
  | .incomplete | .incompleteName | .writtenMeasureTooLarge _ | .undefinedNumber _
  | .tooManyDigits | .signalingNumber | .unsupported .. => .value
  | .tooFewArguments | .tooManyArguments | .namedArgument | .measureNotInteger | .notANumber ..
  | .notAnInteger .. | .notReal _ | .notACharacter => .type
  | .givenMeasureTooLarge _ | .excessivePrecision | .outsideCodePoints | .infiniteNumber _
  | .hugeNumber => .range
  | .unknownName _ => .name
  | .noRoom => .memory

end MessageError

end EntityCatalog
