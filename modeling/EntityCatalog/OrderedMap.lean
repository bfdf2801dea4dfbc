/-!
# Insertion-ordered maps

A map from keys to values that remembers the order in which its keys were first inserted. Writing
to a key that is present replaces its value and keeps its place. The view of a map is the look-up
function `get?` together with the list of `keys`; each operation has a lemma for both.
-/

namespace EntityCatalog

variable {κ α β : Type}

/-- Entries in insertion order, with no key twice. -/
structure OrderedMap (κ α : Type) where
  entries : List (κ × α)
  nodup_keys : (entries.map Prod.fst).Nodup
deriving DecidableEq

namespace OrderedMap

@[ext]
theorem ext {left right : OrderedMap κ α} (entries_eq : left.entries = right.entries) :
    left = right := by
  cases left
  cases right
  simp_all

/-- The map without entries. -/
def empty : OrderedMap κ α := ⟨[], List.nodup_nil⟩

instance : Inhabited (OrderedMap κ α) := ⟨empty⟩

/-- The keys in insertion order. -/
def keys (map : OrderedMap κ α) : List κ := map.entries.map Prod.fst

/-- The values in the order of their keys. -/
def values (map : OrderedMap κ α) : List α := map.entries.map Prod.snd

/-- The number of entries. -/
def size (map : OrderedMap κ α) : Nat := map.entries.length

/-- Whether a map has no entry. -/
def isEmpty (map : OrderedMap κ α) : Bool := map.entries.isEmpty

section Lookup

variable [DecidableEq κ]

/-- The value of the first entry with a key. -/
def findEntry (key : κ) : List (κ × α) → Option α
  | [] => none
  | entry :: rest => if key = entry.1 then some entry.2 else findEntry key rest

/-- The value of a key. -/
def get? (map : OrderedMap κ α) (key : κ) : Option α := findEntry key map.entries

/-- Whether a key has a value. -/
def contains (map : OrderedMap κ α) (key : κ) : Bool := (map.get? key).isSome

/-- Entries with one key given a value: in its place if it is present, else at the end. -/
def insertEntry (key : κ) (value : α) : List (κ × α) → List (κ × α)
  | [] => [(key, value)]
  | entry :: rest =>
      if entry.1 = key then (key, value) :: rest else entry :: insertEntry key value rest

theorem keys_insertEntry (key : κ) (value : α) (entries : List (κ × α)) :
    (insertEntry key value entries).map Prod.fst =
      if key ∈ entries.map Prod.fst then entries.map Prod.fst
      else entries.map Prod.fst ++ [key] := by
  induction entries with
  | nil => simp [insertEntry]
  | cons entry rest ih =>
    by_cases same : entry.1 = key
    · simp [insertEntry, same]
    · have different : ¬key = entry.1 := fun eq => same eq.symm
      simp only [insertEntry, same, if_false, List.map_cons, List.mem_cons, different, false_or, ih]
      split <;> simp

theorem nodup_insertEntry (key : κ) (value : α) {entries : List (κ × α)}
    (nodup : (entries.map Prod.fst).Nodup) :
    ((insertEntry key value entries).map Prod.fst).Nodup := by
  rw [keys_insertEntry]
  split
  · exact nodup
  · next absent =>
    rw [List.nodup_append]
    refine ⟨nodup, by simp, ?_⟩
    intro left left_mem right right_mem eq
    rw [List.mem_singleton] at right_mem
    exact absent (right_mem ▸ eq ▸ left_mem)

theorem findEntry_insertEntry (key : κ) (value : α) (entries : List (κ × α)) (other : κ) :
    findEntry other (insertEntry key value entries) =
      if other = key then some value else findEntry other entries := by
  induction entries with
  | nil => simp [insertEntry, findEntry]
  | cons entry rest ih =>
    by_cases same : entry.1 = key
    · by_cases asked : other = key <;> simp [insertEntry, findEntry, same, asked]
    · by_cases found : other = entry.1
      · have different : ¬other = key := fun eq => same (found ▸ eq)
        simp [insertEntry, findEntry, same, found]
      · simp [insertEntry, findEntry, same, found, ih]

theorem findEntry_append (key : κ) (front back : List (κ × α)) :
    findEntry key (front ++ back) = (findEntry key front).or (findEntry key back) := by
  induction front with
  | nil => simp [findEntry]
  | cons entry rest ih =>
    by_cases same : key = entry.1 <;> simp [findEntry, same, ih]

theorem findEntry_isSome_iff (key : κ) (entries : List (κ × α)) :
    (findEntry key entries).isSome ↔ key ∈ entries.map Prod.fst := by
  induction entries with
  | nil => simp [findEntry]
  | cons entry rest ih =>
    by_cases same : key = entry.1
    · simp [findEntry, same]
    · simp only [findEntry, same, if_false, List.map_cons, List.mem_cons, false_or, ih]

/-- Gives a key a value, in its place if it is present and else at the end. -/
def insert (map : OrderedMap κ α) (key : κ) (value : α) : OrderedMap κ α :=
  ⟨insertEntry key value map.entries, nodup_insertEntry key value map.nodup_keys⟩

/-- Writes all entries of a list into a map, from left to right. -/
def insertAll (map : OrderedMap κ α) (entries : List (κ × α)) : OrderedMap κ α :=
  entries.foldl (fun written entry => written.insert entry.1 entry.2) map

/-- The map of a list of entries; of several values for one key the last one stays. -/
def ofList (entries : List (κ × α)) : OrderedMap κ α := empty.insertAll entries

/-- Writes every entry of `upper` over `lower`. -/
def overlay (lower upper : OrderedMap κ α) : OrderedMap κ α := lower.insertAll upper.entries

/-- Whether some entries agree with those of a map; the first one that does not decides. -/
def entriesAgree {ε : Type} (agree : α → α → Except ε Bool) (map : OrderedMap κ α) :
    List (κ × α) → Except ε Bool
  | [] => .ok true
  | entry :: rest =>
      match map.get? entry.1 with
      | none => .ok false
      | some value => do
          if ← agree entry.2 value then entriesAgree agree map rest else pure false

/-- Whether two maps have the same keys and agree, value by value, in whatever order. -/
def agreeBy {ε : Type} (agree : α → α → Except ε Bool) (left right : OrderedMap κ α) :
    Except ε Bool :=
  if left.size = right.size then entriesAgree agree right left.entries else .ok false

@[simp]
theorem get?_empty (key : κ) : (empty : OrderedMap κ α).get? key = none := rfl

@[simp]
theorem get?_insert (map : OrderedMap κ α) (key : κ) (value : α) (other : κ) :
    (map.insert key value).get? other = if other = key then some value else map.get? other :=
  findEntry_insertEntry key value map.entries other

theorem keys_insert (map : OrderedMap κ α) (key : κ) (value : α) :
    (map.insert key value).keys = if key ∈ map.keys then map.keys else map.keys ++ [key] :=
  keys_insertEntry key value map.entries

theorem mem_keys_iff (map : OrderedMap κ α) (key : κ) :
    key ∈ map.keys ↔ (map.get? key).isSome :=
  (findEntry_isSome_iff key map.entries).symm

theorem get?_insertAll (map : OrderedMap κ α) (entries : List (κ × α)) (key : κ) :
    (map.insertAll entries).get? key =
      (findEntry key entries.reverse).or (map.get? key) := by
  induction entries generalizing map with
  | nil => simp [insertAll, findEntry]
  | cons entry rest ih =>
    have step : (map.insertAll (entry :: rest)) =
        (map.insert entry.1 entry.2).insertAll rest := rfl
    rw [step, ih, List.reverse_cons, findEntry_append, get?_insert, Option.or_assoc]
    by_cases same : key = entry.1 <;> simp [findEntry, same]

end Lookup

/-- Replaces every value, keeping keys and order. -/
def mapValues (replace : κ → α → β) (map : OrderedMap κ α) : OrderedMap κ β where
  entries := map.entries.map fun entry => (entry.1, replace entry.1 entry.2)
  nodup_keys := by simpa [List.map_map, Function.comp_def] using map.nodup_keys

@[simp]
theorem keys_mapValues (replace : κ → α → β) (map : OrderedMap κ α) :
    (map.mapValues replace).keys = map.keys := by
  simp [keys, mapValues]

@[simp]
theorem size_mapValues (replace : κ → α → β) (map : OrderedMap κ α) :
    (map.mapValues replace).size = map.size := by
  simp [size, mapValues]

@[simp]
theorem isEmpty_mapValues (replace : κ → α → β) (map : OrderedMap κ α) :
    (map.mapValues replace).isEmpty = map.isEmpty := by
  simp [isEmpty, mapValues]

theorem get?_mapValues [DecidableEq κ] (replace : κ → α → β) (map : OrderedMap κ α) (key : κ) :
    (map.mapValues replace).get? key = (map.get? key).map (replace key) := by
  simp only [get?, mapValues]
  induction map.entries with
  | nil => rfl
  | cons entry rest ih =>
    by_cases same : key = entry.1
    · simp [findEntry, same]
    · simp [findEntry, same, ih]

end OrderedMap

end EntityCatalog
