import EntityCatalog.Validator
import EntityCatalog.Value.Sameness

/-!
# Sameness of validators

Two validators are the same if they are built alike from the same parts, where limits, and values
that stand in the place of validators, are compared as values. Such values may not be comparable,
and they may keep a validator from being looked up; a validator without them is the same as another
one exactly if it is equal to it.
-/

namespace EntityCatalog.Validator

variable {τ : Type}

mutual

/-- What keeps a validator from being looked up. -/
def lookupFault? : Validator τ → Option LookupFault
  | .foreign value => value.lookupFault?
  | .maxLength limit => limit.toValue.lookupFault?
  | .allOf parts => partsFault? parts
  | .transformed inner _ => inner.lookupFault?
  | .nullable inner => inner.lookupFault?
  | .collection inner => inner.lookupFault?
  | _ => none

/-- What keeps the first of some validators that cannot be looked up from being so. -/
def partsFault? : List (Validator τ) → Option LookupFault
  | [] => none
  | part :: rest => part.lookupFault?.or (partsFault? rest)

end

section Comparison

variable [DecidableEq τ]

mutual

/-- Whether two validators are the same. -/
def same? : Validator τ → Validator τ → Except LookupFault Bool
  | .foreign left, .foreign right => left.same? right
  | .maxLength left, .maxLength right => left.same? right
  | .allOf left, .allOf right => sameParts? left right
  | .transformed left leftTransform, .transformed right rightTransform => do
      if ← left.same? right then pure (decide (leftTransform = rightTransform)) else pure false
  | .nullable left, .nullable right => left.same? right
  | .collection left, .collection right => left.same? right
  | left, right => .ok (left.equal right)

/-- Whether two lists of validators are the same part by part; the first difference decides. -/
def sameParts? : List (Validator τ) → List (Validator τ) → Except LookupFault Bool
  | [], [] => .ok true
  | left :: lefts, right :: rights => do
      if ← left.same? right then sameParts? lefts rights else pure false
  | _, _ => .ok false

end

/--
Whether two validators are the same, provided that both can be looked up; a fault in comparing them
comes before one in looking them up.
-/
def interchangeable? (left right : Validator τ) : Except LookupFault Bool := do
  let same ← left.same? right
  match left.lookupFault?.or right.lookupFault? with
  | some fault => throw fault
  | none => pure same

end Comparison

end EntityCatalog.Validator
