import EntityCatalog.Registry

/-!
# Shared registries

A process may have any number of registries, of which at most one is shared by everyone who asks
for the shared one. It is made when it is first asked for. Dropping it leaves it to those who hold
it already, and the next one who asks gets a new one.
-/

namespace EntityCatalog

/-- All registries of a process, with the position of the shared one. -/
structure RegistryPool (τ : Type) where
  registries : Array (Registry τ)
  shared : Option Nat

namespace RegistryPool

variable {τ : Type}

/-- A process without registries. -/
def empty : RegistryPool τ := ⟨#[], none⟩

/-- Makes a new registry and gives its position. -/
def create (pool : RegistryPool τ) : Nat × RegistryPool τ :=
  (pool.registries.size, { pool with registries := pool.registries.push .empty })

/-- The position of the shared registry, which is made if there is none. -/
def obtainShared (pool : RegistryPool τ) : Nat × RegistryPool τ :=
  match pool.shared with
  | some position => (position, pool)
  | none =>
      let (position, created) := pool.create
      (position, { created with shared := some position })

/-- Lets the next one who asks for the shared registry have a new one. -/
def dropShared (pool : RegistryPool τ) : RegistryPool τ := { pool with shared := none }

/-- The registry at a position. -/
def read (pool : RegistryPool τ) (position : Nat) : Registry τ :=
  pool.registries.getD position .empty

/-- Replaces the contents of the registry at a position. -/
def write (pool : RegistryPool τ) (position : Nat) (registry : Registry τ) : RegistryPool τ :=
  { pool with registries := pool.registries.setIfInBounds position registry }

end RegistryPool

end EntityCatalog
