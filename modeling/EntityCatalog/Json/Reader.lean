import EntityCatalog.Json
import EntityCatalog.Number.Decimal

/-!
# Reading JSON documents

Reads the standard grammar, and the three words for numbers that are not finite. Each reader takes
the characters that are left and gives what it read with the characters after it, or nothing if
they do not start with what it reads. Integers have a greatest length and containers a greatest
depth. A document is read with twice as much fuel as it has characters, which suffices because of
two nested steps at least one takes a character.
-/

namespace EntityCatalog.Json

/-- Why a text is no document. -/
inductive ReadError where
  | malformed
  /-- An array, or an object, opens inside of too many containers. -/
  | tooDeep (isArray : Bool)
deriving DecidableEq, Repr

/-- The wording of a read error. -/
def ReadError.message : ReadError → String
  | .malformed => "malformed document"
  | .tooDeep isArray =>
      "maximum recursion depth exceeded while decoding a JSON " ++
        (if isArray then "array" else "object") ++ " from a unicode string"

/-- The most containers that are open at one time. -/
def greatestDepth : Nat := 975

/-- The most digits of an integer. -/
def greatestDigits : Nat := 4300

/-- What was read, or the refusal of a malformed text. -/
def orMalformed {α : Type} (outcome : Option α) : Except ReadError α :=
  outcome.elim (.error .malformed) .ok

/-- The characters that may stand between the parts of a document. -/
def isSpace (character : Char) : Bool :=
  character == ' ' || character == '\t' || character == '\n' || character == '\r'

/-- The characters after leading spaces. -/
def skipSpaces (characters : List Char) : List Char := characters.dropWhile isSpace

/-- The value of a hexadecimal digit. -/
def hexadecimalDigit? (character : Char) : Option Nat :=
  if '0' ≤ character ∧ character ≤ '9' then some (character.toNat - '0'.toNat)
  else if 'a' ≤ character ∧ character ≤ 'f' then some (character.toNat - 'a'.toNat + 10)
  else if 'A' ≤ character ∧ character ≤ 'F' then some (character.toNat - 'A'.toNat + 10)
  else none

/-- Four hexadecimal digits. -/
def codeUnit? : List Char → Option (Nat × List Char)
  | first :: second :: third :: fourth :: rest => do
      let first ← hexadecimalDigit? first
      let second ← hexadecimalDigit? second
      let third ← hexadecimalDigit? third
      let fourth ← hexadecimalDigit? fourth
      pure (((first * 16 + second) * 16 + third) * 16 + fourth, rest)
  | _ => none

/--
The code point of a code unit after its escape, joined with the second half of a surrogate pair if
one follows.
-/
def escapedPoint? (characters : List Char) : Option (Nat × List Char) := do
  let (unit, rest) ← codeUnit? characters
  let second? : Option (Nat × List Char) := match rest with
    | '\x5c' :: 'u' :: after => (codeUnit? after).filter fun low => 0xdc00 ≤ low.1 && low.1 < 0xe000
    | _ => none
  match second? with
  | some (low, afterPair) =>
      if 0xd800 ≤ unit ∧ unit < 0xdc00 then
        pure (0x10000 + (unit - 0xd800) * 0x400 + (low - 0xdc00), afterPair)
      else pure (unit, rest)
  | none => pure (unit, rest)

/-- The character that a letter stands for after a backslash. -/
def escapeLetter? (letter : Char) : Option Char :=
  if letter = '\x22' ∨ letter = '\x5c' ∨ letter = '/' then some letter
  else if letter = 'n' then some '\n'
  else if letter = 'r' then some '\r'
  else if letter = 't' then some '\t'
  else if letter = 'b' then some '\x08'
  else if letter = 'f' then some '\x0c'
  else none

/--
The text after its opening mark, and the characters after its closing mark. The characters that were
read before come last first.
-/
def readText (readBefore : List Char) : Nat → List Char → Option (String × List Char)
  | 0, _ => none
  | _, [] => none
  | fuel + 1, character :: rest =>
      if character = '\x22' then some (String.ofList readBefore.reverse, rest)
      else if character = '\x5c' then
        match rest with
        | 'u' :: after =>
            match escapedPoint? after with
            | some (point, rest) => readText ((Text.spelling point).reverse ++ readBefore) fuel rest
            | none => none
        | letter :: after =>
            match escapeLetter? letter with
            | some escaped => readText (escaped :: readBefore) fuel after
            | none => none
        | [] => none
      else if character.toNat < 0x20 then none
      else readText (character :: readBefore) fuel rest

/-- The characters after a word, if they start with it. -/
def afterWord? (word : String) (characters : List Char) : Option (List Char) :=
  let length := word.toList.length
  if characters.take length = word.toList then some (characters.drop length) else none

/-- A run of digits and the characters after it. -/
def splitDigits (characters : List Char) : List Char × List Char :=
  (characters.takeWhile Char.isDigit, characters.dropWhile Char.isDigit)

/-- The digits of a fraction after its point; nothing if there is no fraction. -/
def splitFraction (characters : List Char) : List Char × List Char :=
  match characters with
  | '.' :: rest =>
      match splitDigits rest with
      | ([], _) => ([], characters)
      | split => split
  | _ => ([], characters)

/-- An exponent, if one follows. -/
def splitExponent (characters : List Char) : Option Int × List Char :=
  match characters with
  | letter :: rest =>
      if letter = 'e' ∨ letter = 'E' then
        let (negative, afterSign) := Number.splitSign rest
        match splitDigits afterSign with
        | ([], _) => (none, characters)
        | (digits, after) =>
            (some (Number.withSign negative (Number.digitsValue digits)), after)
      else (none, characters)
  | [] => (none, characters)

/-- A number without its sign. -/
def readMagnitude (negative : Bool) (characters : List Char) : Option (Json × List Char) :=
  let (digits, afterDigits) := match characters with
    | '0' :: rest => (['0'], rest)
    | _ => splitDigits characters
  if digits = [] then none
  else
    let (fraction, afterFraction) := splitFraction afterDigits
    let (exponent, after) := splitExponent afterFraction
    if fraction = [] ∧ exponent = none then
      if greatestDigits < digits.length then none
      else some (.integer (Number.withSign negative (Number.digitsValue digits)), after)
    else
      some (.float (Number.ofDecimal negative (Number.digitsValue (digits ++ fraction))
        (exponent.getD 0 - fraction.length)), after)

/-- A number or one of the words for numbers that are not finite. -/
def readNumber (characters : List Char) : Option (Json × List Char) :=
  match characters with
  | '-' :: rest =>
      match afterWord? "Infinity" rest with
      | some after => some (.float (-Number.infinity), after)
      | none => readMagnitude true rest
  | _ =>
      match afterWord? "Infinity" characters with
      | some after => some (.float Number.infinity, after)
      | none =>
          match afterWord? "NaN" characters with
          | some after => some (.float Number.undefinedNumber, after)
          | none => readMagnitude false characters

/-- A word for a scalar that is neither a number nor a text. -/
def readWord (characters : List Char) : Option (Json × List Char) :=
  match afterWord? "null" characters with
  | some after => some (.null, after)
  | none =>
      match afterWord? "true" characters with
      | some after => some (.boolean true, after)
      | none => (afterWord? "false" characters).map fun after => (.boolean false, after)

/-- Takes one off the number of containers that may still open. -/
def enter (isArray : Bool) : Nat → Except ReadError Nat
  | 0 => .error (.tooDeep isArray)
  | depth + 1 => .ok depth

mutual

/-- A document and the characters after it; so many containers may still open. -/
def readValue : (fuel depth : Nat) → List Char → Except ReadError (Json × List Char)
  | 0, _, _ => .error .malformed
  | fuel + 1, depth, characters =>
      match characters with
      | '\x22' :: rest =>
          (orMalformed (readText [] fuel rest)).map fun (content, after) => (.text content, after)
      | '[' :: rest => do
          let inside ← enter true depth
          match skipSpaces rest with
          | ']' :: after => pure (.array [], after)
          | inner =>
              let (items, after) ← readItems fuel inside inner
              pure (.array items, after)
      | '\x7b' :: rest => do
          let inside ← enter false depth
          match skipSpaces rest with
          | '\x7d' :: after => pure (.object [], after)
          | inner =>
              let (members, after) ← readMembers fuel inside inner
              pure (.object members, after)
      | _ => orMalformed ((readWord characters).or (readNumber characters))

/-- The items of an array up to its closing bracket. -/
def readItems : (fuel depth : Nat) → List Char → Except ReadError (List Json × List Char)
  | 0, _, _ => .error .malformed
  | fuel + 1, depth, characters => do
      let (item, afterItem) ← readValue fuel depth characters
      match skipSpaces afterItem with
      | ']' :: after => pure ([item], after)
      | ',' :: rest =>
          let (items, after) ← readItems fuel depth (skipSpaces rest)
          pure (item :: items, after)
      | _ => throw .malformed

/-- The members of an object up to its closing brace. -/
def readMembers :
    (fuel depth : Nat) → List Char → Except ReadError (List (String × Json) × List Char)
  | 0, _, _ => .error .malformed
  | fuel + 1, depth, characters =>
      match characters with
      | '\x22' :: rest => do
          let (name, afterName) ← orMalformed (readText [] fuel rest)
          match skipSpaces afterName with
          | ':' :: afterColon =>
              let (value, afterValue) ← readValue fuel depth (skipSpaces afterColon)
              match skipSpaces afterValue with
              | '\x7d' :: after => pure ([(name, value)], after)
              | ',' :: rest =>
                  let (members, after) ← readMembers fuel depth (skipSpaces rest)
                  pure ((name, value) :: members, after)
              | _ => throw .malformed
          | _ => throw .malformed
      | _ => throw .malformed

end

/-- Reads a text that holds one document and nothing else. -/
def read (text : String) : Except ReadError Json := do
  let characters := skipSpaces text.toList
  let (document, after) ← readValue (2 * characters.length + 1) greatestDepth characters
  if skipSpaces after = [] then pure document else throw .malformed

end EntityCatalog.Json
