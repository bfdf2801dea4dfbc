/-!
# Blank characters

The characters with the Unicode property `White_Space`, which may surround a number written as
text without being part of it, and which separate words.
-/

namespace EntityCatalog.Text

/-- Whether a character has the property `White_Space`. -/
def isBlank (character : Char) : Bool :=
  let code := character.toNat
  (0x09 ≤ code && code ≤ 0x0d) || code == 0x20 || code == 0x85 || code == 0xa0 ||
    code == 0x1680 || (0x2000 ≤ code && code ≤ 0x200a) || code == 0x2028 || code == 0x2029 ||
    code == 0x202f || code == 0x205f || code == 0x3000

/-- Whether a character separates words: a blank, an information separator or a comma. -/
def separatesWords (character : Char) : Bool :=
  isBlank character || (0x1c ≤ character.toNat && character.toNat ≤ 0x1f) || character == ','

/-- The parts of a text between characters that separate words, some of them empty. -/
def wordsAndGaps : List Char → List (List Char)
  | [] => [[]]
  | character :: rest =>
      match wordsAndGaps rest with
      | [] => []
      | part :: parts =>
          if separatesWords character then [] :: part :: parts else (character :: part) :: parts

/-- The words of a text. -/
def words (text : String) : List String :=
  ((wordsAndGaps text.toList).filter fun part => !part.isEmpty).map String.ofList

/-- A text without the blanks at its two ends. -/
def trimBlanks (characters : List Char) : List Char :=
  ((characters.dropWhile isBlank).reverse.dropWhile isBlank).reverse

end EntityCatalog.Text
