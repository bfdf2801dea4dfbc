import EntityCatalog.Number.Reduced
import EntityCatalog.Number.Word
import EntityCatalog.Text.Blank

/-!
# Integers in records

The integer that a text or a number stands for in a record. A text may have blanks around it, a
sign, leading zeros with underscores among them, single underscores between digits, and a point
with zeros after it. A minus sign may also follow the leading zeros. Texts that start with too many
digits are told apart from texts that are no integers at all.
-/

namespace EntityCatalog.Record

/-- Why a text or a number stands for no integer. -/
inductive IntegerFault where
  /-- A text that is no integer. -/
  | unreadable
  /-- A text with too many digits, or a floating-point number beyond the words of 64 bits. -/
  | tooLarge
  /-- A number with a fractional part. -/
  | fractional
  /-- An infinite number, or a value that is no number. -/
  | notFinite
deriving DecidableEq, Repr

/-- The most digits of an integer that are read. -/
def greatestLength : Nat := 4300

/-- A minus sign in front of a text, and the rest. -/
def splitMinus : List Char → Bool × List Char
  | '-' :: rest => (true, rest)
  | characters => (false, characters)

/-- An integer without superfluous characters: an optional minus sign, and zero or other digits. -/
def readPlain (characters : List Char) : Except IntegerFault Int :=
  let (negative, unsigned) := splitMinus characters
  let digits := unsigned.takeWhile Char.isDigit
  if unsigned = ['0'] then .ok 0
  else if digits = [] ∨ digits.head? = some '0' then .error .unreadable
  else if greatestLength < digits.length then .error .tooLarge
  else if digits.length < unsigned.length then .error .unreadable
  else .ok (Number.withSign negative (Number.digitsValue digits))

/-- A text without a plus sign in front; a minus sign must not follow one. -/
def withoutPlus? : List Char → Option (List Char)
  | '+' :: '-' :: _ => none
  | '+' :: rest => some rest
  | characters => some characters

/--
The rest of a text after some zeros and underscores, the last of which is given: from the first
other digit or a minus sign on, or from the last zero or underscore on if a point or nothing
follows.
-/
def afterZeros? (last : Char) : List Char → Option (List Char)
  | [] => some [last]
  | character :: rest =>
      if character = '0' ∨ character = '_' then afterZeros? character rest
      else if character.isDigit ∨ character = '-' then some (character :: rest)
      else if character = '.' then some (last :: character :: rest)
      else none

/-- A text without leading zeros; it has to start with a digit or a minus sign. -/
def withoutLeadingZeros? : List Char → Option (List Char)
  | '0' :: rest => afterZeros? '0' rest
  | character :: rest =>
      if character.isDigit ∨ character = '-' then some (character :: rest) else none
  | [] => none

/-- A text without a point and the zeros after it; there has to be one, and nothing else. -/
def withoutDecimals? (characters : List Char) : Option (List Char) :=
  match characters.dropWhile (· != '.') with
  | [] => some characters
  | _ :: decimals =>
      if decimals ≠ [] ∧ decimals.all (· == '0') then some (characters.takeWhile (· != '.'))
      else none

/-- Whether two underscores follow each other. -/
def hasDoubleUnderscore : List Char → Bool
  | '_' :: '_' :: _ => true
  | _ :: rest => hasDoubleUnderscore rest
  | [] => false

/-- A text without its underscores, if each of them stands alone between other characters. -/
def withoutUnderscores (characters : List Char) : List Char :=
  if characters.head? = some '_' ∨ characters.getLast? = some '_' ∨
      hasDoubleUnderscore characters then characters
  else characters.filter (· != '_')

/--
A text without the superfluous characters that an integer may have; those of a negative number
stand behind its sign.
-/
def cleaned? (characters : List Char) : Option (List Char) := do
  let (negative, unsigned) := splitMinus (← withoutPlus? characters)
  let shortened ← withoutLeadingZeros? unsigned
  let whole ← withoutDecimals? shortened
  let digits := withoutUnderscores whole
  pure (if negative then '-' :: digits else digits)

/--
The integer that a text stands for. Only a text that needs no cleaning can have too many digits;
any other one is unreadable then.
-/
def integerOfText (content : String) : Except IntegerFault Int :=
  match readPlain content.toList with
  | .error .unreadable =>
      match (cleaned? (Text.trimBlanks content.toList)).map readPlain with
      | some (.ok integer) => .ok integer
      | _ => .error .unreadable
  | outcome => outcome

/-- The integer that a finite number is. -/
def integerOfReduced : Option Number.Reduced → Except IntegerFault Int
  | none => .error .notFinite
  | some number =>
      match number.integer? with
      | some integer => .ok integer
      | none => .error .fractional

/-- The integer that a decimal number is, of whatever size. -/
def integerOfDecimal (number : Number.Decimal) : Except IntegerFault Int :=
  integerOfReduced number.reduced?

/-- The integer that a floating-point number is; it has to lie inside of the words of 64 bits. -/
def integerOfFloat (number : Float) : Except IntegerFault Int :=
  match integerOfReduced (Number.reduced? number) with
  | .ok integer =>
      if Number.leastWord 64 < integer ∧ integer ≤ Number.greatestWord 64 then .ok integer
      else .error .tooLarge
  | fault => fault

end EntityCatalog.Record
