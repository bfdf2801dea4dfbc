/-!
# Code points of texts

A text is a sequence of code points. Most of them are characters; the surrogates are meant to be
halves of a pair and stand for no character of their own. A code point is spelled by its character,
except that a surrogate, and the first character behind the surrogates, are spelled by two: the one
behind the surrogates, and one of a block that lies further behind. Every code point has one
spelling, and spellings are in the order of the code points. So texts are compared and joined as
they are spelled; they are counted, cut and shown by code point.
-/

namespace EntityCatalog.Text

/-- Whether a code point is a surrogate. -/
def isSurrogate (code : Nat) : Bool := 0xd800 ≤ code && code < 0xe000

/-- The first character behind the surrogates; it opens the spellings of two characters. -/
def opener : Char := '\ue000'

/-- How far the second character of a spelling lies behind the code point. -/
def spellingDistance : Nat := 0x1000

/-- The characters that spell a code point. -/
def spelling (code : Nat) : List Char :=
  if isSurrogate code ∨ code = opener.toNat then [opener, Char.ofNat (code + spellingDistance)]
  else [Char.ofNat code]

/-- The code points of spelled characters. -/
def codePoints : List Char → List Nat
  | [] => []
  | [last] => [last.toNat]
  | first :: second :: rest =>
      if first = opener then (second.toNat - spellingDistance) :: codePoints rest
      else first.toNat :: codePoints (second :: rest)

/-- The text of some code points. -/
def ofCodePoints (codes : List Nat) : String := String.ofList (codes.flatMap spelling)

/-- The text of some characters. -/
def ofCharacters (characters : List Char) : String := ofCodePoints (characters.map Char.toNat)

/-- The number of code points of spelled characters; each has one that is not the opener. -/
def pointCount (characters : List Char) : Nat := characters.countP (· != opener)

/-- The number of code points of a text. -/
def length (text : String) : Nat := pointCount text.toList

/-- Whether a text has no surrogates, so that it has an encoding in octets. -/
def isEncodable (text : String) : Bool := !(codePoints text.toList).any isSurrogate

/-- The character that is shown for what has no encoding. -/
def replacement : Char := '\ufffd'

/-- A text with three replacements for each surrogate, one for each octet that it would take. -/
def withReplacements (text : String) : String :=
  String.ofList ((codePoints text.toList).flatMap fun code =>
    if isSurrogate code then List.replicate 3 replacement else spelling code)

/-- Every code point is read from its spelling. -/
theorem codePoints_spelling_append {code : Nat} (valid : code < 0x110000) (rest : List Char) :
    codePoints (spelling code ++ rest) = code :: codePoints rest := by
  by_cases double : isSurrogate code ∨ code = opener.toNat
  · have range : 0xd800 ≤ code ∧ code ≤ 0xe000 := by
      rcases double with surrogate | same
      · simp only [isSurrogate, Bool.and_eq_true, decide_eq_true_eq] at surrogate
        omega
      · rw [same]
        decide
    have second : (Char.ofNat (code + spellingDistance)).toNat = code + spellingDistance := by
      have assigned : (code + spellingDistance).isValidChar := by
        right
        simp only [spellingDistance]
        omega
      rw [Char.ofNat, dif_pos assigned]
      rfl
    simp [spelling, if_pos double, codePoints, second]
  · have outside : code < 0xd800 ∨ 0xe000 ≤ code := by
      simp only [isSurrogate, Bool.and_eq_true, decide_eq_true_eq, not_or] at double
      omega
    have assigned : code.isValidChar := by
      rcases outside with below | above
      · exact Or.inl below
      · exact Or.inr ⟨by omega, valid⟩
    have number : (Char.ofNat code).toNat = code := by
      rw [Char.ofNat, dif_pos assigned]
      rfl
    have other : Char.ofNat code ≠ opener := by
      intro same
      exact double (Or.inr (by rw [← same, number]))
    cases rest <;> simp [spelling, if_neg double, codePoints, other, number]

end EntityCatalog.Text
