/-!
# Signed words

A signed word of some number of bits holds the integers between two bounds, both included.
-/

namespace EntityCatalog.Number

/-- The least integer that a signed word of so many bits holds. -/
def leastWord (bits : Nat) : Int := -(Nat.pow 2 (bits - 1) : Int)

/-- The greatest integer that a signed word of so many bits holds. -/
def greatestWord (bits : Nat) : Int := (Nat.pow 2 (bits - 1) : Int) - 1

/-- Whether a signed word of so many bits holds an integer. -/
def fitsWord (bits : Nat) (number : Int) : Bool :=
  leastWord bits ≤ number && number ≤ greatestWord bits

/-- The integer that a signed word of so many bits holds in the place of an integer. -/
def wrapWord (bits : Nat) (number : Int) : Int := Int.bmod number (Nat.pow 2 bits)

theorem fitsWord_iff {bits : Nat} {number : Int} :
    fitsWord bits number = true ↔ leastWord bits ≤ number ∧ number ≤ greatestWord bits := by
  simp [fitsWord]

/-- An integer that a word holds is not changed. -/
theorem wrapWord_of_fitsWord {bits : Nat} {number : Int} (positive : 0 < bits)
    (fits : fitsWord bits number = true) : wrapWord bits number = number := by
  obtain ⟨low, high⟩ := fitsWord_iff.1 fits
  have double : Nat.pow 2 bits = 2 * Nat.pow 2 (bits - 1) := by
    obtain ⟨shorter, rfl⟩ := Nat.exists_eq_succ_of_ne_zero (Nat.ne_of_gt positive)
    exact Nat.pow_succ'
  unfold leastWord at low
  unfold greatestWord at high
  apply Int.bmod_eq_of_le <;> omega

end EntityCatalog.Number
