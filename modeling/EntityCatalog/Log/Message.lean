import EntityCatalog.Log.Message.Conversion
import EntityCatalog.Number.Word
import EntityCatalog.OrderedMap

/-!
# Messages from templates

A template is a text with places for arguments. A place is a percent sign, flags, a least width, a
precision and the letter of a conversion; an asterisk in the place of a width or precision takes it
from an argument of its own. Two percent signs stand for one. Arguments are used from left to
right, and all of them have to be used, unless the only one is a mapping: then places may name its
entries.
-/

namespace EntityCatalog

/-- The arguments of a template. -/
inductive Arguments where
  /-- The arguments that are not used yet. -/
  | listed (values : List Value)
  /-- The entries of a mapping, and what the next place takes unless it names an entry. -/
  | named (entries : List (Value × Value)) (next : Option Value)

namespace Arguments

/-- The arguments of a list of values; a single mapping gives its entries. -/
def ofList : List Value → Arguments
  | [.mapping (entry :: rest)] => .named (entry :: rest) (some (.mapping (entry :: rest)))
  | values => .listed values

/-- The next argument, and the arguments after it. -/
def next : Arguments → Except MessageError (Value × Arguments)
  | .listed (value :: rest) => .ok (value, .listed rest)
  | .named entries (some value) => .ok (value, .named entries none)
  | .listed [] | .named _ none => .error .tooFewArguments

/-- Whether nothing is left that has to be used. -/
def isDone : Arguments → Bool
  | .listed values => values.isEmpty
  | .named .. => true

/-- The arguments from which the next place takes the entry with a name. -/
def select (name : String) : Arguments → Except MessageError Arguments
  | .listed _ => .error .namedArgument
  | .named entries _ =>
      match OrderedMap.findEntry (Value.text name) entries with
      | some value => .ok (.named entries (some value))
      | none => .error (.unknownName name)

end Arguments

/-- The rest of a template, and the arguments that are left for it. -/
structure TemplateRest where
  characters : List Char
  arguments : Arguments

/--
The name up to the closing parenthesis, and the characters after it; so many inner parentheses are
open.
-/
def splitName? : Nat → List Char → Option (List Char × List Char)
  | _, [] => none
  | 0, ')' :: rest => some ([], rest)
  | depth + 1, ')' :: rest =>
      (splitName? depth rest).map fun (name, after) => (')' :: name, after)
  | depth, '(' :: rest =>
      (splitName? (depth + 1) rest).map fun (name, after) => ('(' :: name, after)
  | depth, character :: rest =>
      (splitName? depth rest).map fun (name, after) => (character :: name, after)

namespace Measure

/-- A measure that is taken from an argument. -/
def ofArgument (measure : Measure) (argument : Value) : Except MessageError Int :=
  match argument.integer? with
  | none => .error .measureNotInteger
  | some number =>
      if Number.fitsWord measure.bits number then .ok number
      else .error (.givenMeasureTooLarge measure)

/-- A measure that is written in digits. -/
def ofDigits (measure : Measure) (digits : List Char) : Except MessageError Int :=
  let number : Int := Number.digitsValue digits
  if number ≤ Number.greatestWord measure.bits then .ok number
  else .error (.writtenMeasureTooLarge measure)

end Measure

namespace TemplateRest

/-- Takes the name of an argument from the start of a place, if it has one. -/
def selectArgument (template : TemplateRest) : Except MessageError TemplateRest :=
  match template.characters, template.arguments with
  | '(' :: _, .listed _ => .error .namedArgument
  | '(' :: rest, arguments =>
      match splitName? 0 rest with
      | some (name, after) => do
          let selected ← arguments.select (String.ofList name)
          pure ⟨after, selected⟩
      | none => .error .incompleteName
  | _, _ => .ok template

/-- Takes a measure, if there is one. -/
def takeMeasure (measure : Measure) (template : TemplateRest) :
    Except MessageError (Option Int × TemplateRest) :=
  match template.characters with
  | '*' :: rest => do
      let (argument, others) ← template.arguments.next
      let number ← measure.ofArgument argument
      pure (some number, ⟨rest, others⟩)
  | characters =>
      match characters.takeWhile Char.isDigit with
      | [] => .ok (none, template)
      | digits => do
          let number ← measure.ofDigits digits
          pure (some number, ⟨characters.dropWhile Char.isDigit, template.arguments⟩)

/-- Takes a precision, if there is a point; a point alone and a negative number stand for zero. -/
def takePrecision (template : TemplateRest) :
    Except MessageError (Option Nat × TemplateRest) :=
  match template.characters with
  | '.' :: rest => do
      let (number, after) ← takeMeasure .precision ⟨rest, template.arguments⟩
      pure (some (number.getD 0).toNat, after)
  | _ => .ok (none, template)

/-- Letters that may stand before a conversion and say nothing. -/
def sizeLetters : List Char := ['h', 'l', 'L']

/-- The rest of a template after a letter that says nothing. -/
def skipSize (template : TemplateRest) : TemplateRest :=
  match template.characters with
  | letter :: rest => if sizeLetters.contains letter then { template with characters := rest }
      else template
  | [] => template

/-- Takes the style of a place. -/
def takeStyle (template : TemplateRest) : Except MessageError (PlaceStyle × TemplateRest) := do
  let isFlag := PlaceStyle.flagLetters.contains
  let flags := template.characters.takeWhile isFlag
  let afterFlags := { template with characters := template.characters.dropWhile isFlag }
  let (width, afterWidth) ← takeMeasure .width afterFlags
  let (precision, afterPrecision) ← afterWidth.takePrecision
  let style : PlaceStyle := ⟨flags, 0, precision⟩
  pure (style.withWidth (width.getD 0), afterPrecision.skipSize)

end TemplateRest

/--
Fills the places in the rest of a template of so many code points; every step takes at least one
character, so as much fuel as there are characters suffices.
-/
def fillPlaces (length : Nat) : Nat → List Char → Arguments → Except MessageError (List Char)
  | _, [], arguments => if arguments.isDone then .ok [] else .error .tooManyArguments
  | 0, _, _ => .error .incomplete
  | fuel + 1, '%' :: '%' :: rest, arguments => do
      let filled ← fillPlaces length fuel rest arguments
      pure ('%' :: filled)
  | fuel + 1, '%' :: rest, arguments => do
      let selected ← TemplateRest.selectArgument ⟨rest, arguments⟩
      let (style, afterStyle) ← selected.takeStyle
      match Text.codePoints (afterStyle.characters.take 2) with
      | [] => throw .incomplete
      | code :: _ =>
          let (argument, others) ← afterStyle.arguments.next
          let position := length - Text.pointCount afterStyle.characters
          let shown ← style.placeArgument code position argument
          let filled ← fillPlaces length fuel (afterStyle.characters.drop 1) others
          pure (shown ++ filled)
  | fuel + 1, character :: rest, arguments => do
      let filled ← fillPlaces length fuel rest arguments
      pure (character :: filled)

/-- A template with all its places filled. -/
def filledText (template : String) (arguments : List Value) : Except MessageError String :=
  let characters := template.toList
  (fillPlaces (Text.pointCount characters) characters.length characters (.ofList arguments)).map
    String.ofList

/-- The message of a template; without arguments the template itself. -/
def messageText (template : Value) (arguments : List Value) : Except MessageError String :=
  if arguments = [] then .ok template.plainText
  else filledText template.plainText arguments

end EntityCatalog
