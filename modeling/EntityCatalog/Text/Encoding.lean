import EntityCatalog.Text.Quoted

/-!
# Texts that have no encoding

Surrogates have no encoding in octets. A text that holds some is refused where one is needed, and
the refusal names the first surrogates that stand together.
-/

namespace EntityCatalog.Text

/-- Surrogates that stand together: how many code points precede them, and which they are. -/
structure EncodingFault where
  position : Nat
  surrogates : List Nat
deriving DecidableEq, Repr

/--
The first code point that is refused and the surrogates that follow it; so many code points precede
the given ones.
-/
def firstSurrogates? (isRefused : Nat → Bool) (position : Nat) :
    List Nat → Option EncodingFault
  | [] => none
  | code :: rest =>
      if isRefused code then some ⟨position, code :: rest.takeWhile isSurrogate⟩
      else firstSurrogates? isRefused (position + 1) rest

/-- What keeps a text from being encoded. -/
def encodingFault? (text : String) : Option EncodingFault :=
  firstSurrogates? isSurrogate 0 (codePoints text.toList)

/-- The wording of a fault. -/
def EncodingFault.message (fault : EncodingFault) : String :=
  let place := match fault.surrogates with
    | [code] =>
        " '" ++ String.ofList (codePointEscape code) ++ "' in position " ++ toString fault.position
    | several =>
        "s in position " ++ toString fault.position ++ "-" ++
          toString (fault.position + several.length - 1)
  "'utf-8' codec can't encode character" ++ place ++ ": surrogates not allowed"

/-- Among code points none of which is refused there is no fault. -/
theorem firstSurrogates?_eq_none {isRefused : Nat → Bool} {codes : List Nat} (position : Nat)
    (accepted : codes.any isRefused = false) :
    firstSurrogates? isRefused position codes = none := by
  induction codes generalizing position with
  | nil => rfl
  | cons code rest ih =>
    simp only [List.any_cons, Bool.or_eq_false_iff] at accepted
    simp [firstSurrogates?, accepted.1, ih (position + 1) accepted.2]

end EntityCatalog.Text
