import Mathlib.Data.List.Induction
import Mathlib.Data.List.Nodup
import EntityCatalog.OrderedMap

/-!
# Look-up in insertion-ordered maps

A map has an entry for each value that is found in it and for no other, and it is determined by its
keys in their order together with what is found under them. Without the order of their keys, two
maps are the same if the same is found in them. In an overlay the upper map is looked up before the
lower one, overlays can be taken together in any way, and overlaying twice under the same keys is
overlaying once.
-/

namespace EntityCatalog.OrderedMap

variable {κ α β : Type} [DecidableEq κ]

theorem mem_of_findEntry_eq_some {key : κ} {value : α} {entries : List (κ × α)}
    (found : findEntry key entries = some value) : (key, value) ∈ entries := by
  induction entries with
  | nil => simp [findEntry] at found
  | cons entry rest ih =>
      by_cases same : key = entry.1
      · simp only [findEntry, same, if_true, Option.some.injEq] at found
        subst found
        simp [same]
      · simp only [findEntry, same, if_false] at found
        exact List.mem_cons_of_mem _ (ih found)

theorem findEntry_eq_some_iff_mem {key : κ} {value : α} {entries : List (κ × α)}
    (nodup : (entries.map Prod.fst).Nodup) :
    findEntry key entries = some value ↔ (key, value) ∈ entries := by
  refine ⟨mem_of_findEntry_eq_some, ?_⟩
  induction entries with
  | nil => simp
  | cons entry rest ih =>
      rw [List.map_cons, List.nodup_cons] at nodup
      rcases nodup with ⟨fresh, nodup⟩
      intro mem
      rcases List.mem_cons.mp mem with head | tail
      · simp [findEntry, ← head]
      · have keyMem : key ∈ rest.map Prod.fst := List.mem_map.mpr ⟨(key, value), tail, rfl⟩
        have different : ¬key = entry.1 := fun same => fresh (same ▸ keyMem)
        simpa [findEntry, different] using ih nodup tail

theorem get?_eq_some_iff_mem {map : OrderedMap κ α} {key : κ} {value : α} :
    map.get? key = some value ↔ (key, value) ∈ map.entries :=
  findEntry_eq_some_iff_mem map.nodup_keys

theorem mem_values_iff {map : OrderedMap κ α} {value : α} :
    value ∈ map.values ↔ ∃ key, map.get? key = some value := by
  simp [values, get?_eq_some_iff_mem]

theorem mem_keys_of_get? {map : OrderedMap κ α} {key : κ} {value : α}
    (found : map.get? key = some value) : key ∈ map.keys := by
  rw [mem_keys_iff, found]
  rfl

theorem exists_get?_of_mem_keys {map : OrderedMap κ α} {key : κ} (mem : key ∈ map.keys) :
    ∃ value, map.get? key = some value :=
  Option.isSome_iff_exists.mp ((mem_keys_iff map key).mp mem)

/-- The keys of the entries that pass a test are those under which a value is found that passes. -/
theorem mem_keys_filter_iff {map : OrderedMap κ α} {key : κ} (test : α → Bool) :
    key ∈ (map.entries.filter fun entry => test entry.2).map Prod.fst ↔
      ∃ value, map.get? key = some value ∧ test value = true := by
  simp only [List.mem_map, List.mem_filter, get?_eq_some_iff_mem]
  constructor
  · rintro ⟨⟨_, value⟩, ⟨mem, passed⟩, rfl⟩
    exact ⟨value, mem, passed⟩
  · rintro ⟨value, mem, passed⟩
    exact ⟨(key, value), ⟨mem, passed⟩, rfl⟩

theorem get?_eq_none_iff {map : OrderedMap κ α} {key : κ} :
    map.get? key = none ↔ key ∉ map.keys := by
  rw [mem_keys_iff, Option.not_isSome_iff_eq_none]

theorem findEntry_reverse {key : κ} {entries : List (κ × α)}
    (nodup : (entries.map Prod.fst).Nodup) :
    findEntry key entries.reverse = findEntry key entries := by
  have reversedNodup : (entries.reverse.map Prod.fst).Nodup := by
    rw [List.map_reverse]
    exact List.nodup_reverse.mpr nodup
  apply Option.ext
  intro value
  rw [findEntry_eq_some_iff_mem reversedNodup, findEntry_eq_some_iff_mem nodup, List.mem_reverse]

@[simp]
theorem get?_overlay (lower upper : OrderedMap κ α) (key : κ) :
    (lower.overlay upper).get? key = (upper.get? key).or (lower.get? key) := by
  rw [overlay, get?_insertAll, findEntry_reverse upper.nodup_keys]
  rfl

theorem mem_keys_overlay {lower upper : OrderedMap κ α} {key : κ} :
    key ∈ (lower.overlay upper).keys ↔ key ∈ upper.keys ∨ key ∈ lower.keys := by
  simp [mem_keys_iff]

theorem mem_keys_insert {map : OrderedMap κ α} {key other : κ} {value : α} :
    other ∈ (map.insert key value).keys ↔ other = key ∨ other ∈ map.keys := by
  rw [mem_keys_iff, mem_keys_iff, get?_insert]
  split <;> simp_all

/-- A map is determined by its keys in order and by what is found under them. -/
theorem eq_of_keys_eq_of_get?_eq {left right : OrderedMap κ α} (sameKeys : left.keys = right.keys)
    (sameValues : ∀ key ∈ left.keys, left.get? key = right.get? key) : left = right := by
  rcases left with ⟨leftEntries, leftNodup⟩
  rcases right with ⟨rightEntries, rightNodup⟩
  simp only [keys, get?] at sameKeys sameValues
  apply OrderedMap.ext
  simp only
  induction leftEntries generalizing rightEntries with
  | nil =>
      symm
      simpa using sameKeys.symm
  | cons leftEntry leftRest ih =>
      rcases rightEntries with _ | ⟨rightEntry, rightRest⟩
      · simp at sameKeys
      · simp only [List.map_cons, List.cons.injEq] at sameKeys
        rcases sameKeys with ⟨headKey, tailKeys⟩
        have headValue := sameValues leftEntry.1 (by simp)
        simp only [findEntry, headKey, if_true, Option.some.injEq] at headValue
        rw [List.map_cons, List.nodup_cons] at leftNodup rightNodup
        have tail : leftRest = rightRest := by
          apply ih leftNodup.2 rightRest rightNodup.2 tailKeys
          intro key keyMem
          have different : ¬key = leftEntry.1 := fun same => leftNodup.1 (same ▸ keyMem)
          have tailValue := sameValues key (by simp [keyMem])
          simpa [findEntry, different, ← headKey] using tailValue
        rw [tail, Prod.ext headKey headValue]

theorem keys_insertAll (map : OrderedMap κ α) (entries : List (κ × α)) :
    (map.insertAll entries).keys =
      (entries.map Prod.fst).foldl
        (fun written key => if key ∈ written then written else written ++ [key]) map.keys := by
  induction entries generalizing map with
  | nil => rfl
  | cons entry rest ih =>
      rw [List.map_cons, List.foldl_cons, ← keys_insert map entry.1 entry.2]
      exact ih _

theorem insertAll_append (map : OrderedMap κ α) (front back : List (κ × α)) :
    map.insertAll (front ++ back) = (map.insertAll front).insertAll back :=
  List.foldl_append

theorem keys_insertAll_of_mem {map : OrderedMap κ α} {entries : List (κ × α)}
    (present : ∀ entry ∈ entries, entry.1 ∈ map.keys) :
    (map.insertAll entries).keys = map.keys := by
  rw [keys_insertAll]
  induction entries with
  | nil => rfl
  | cons entry rest ih =>
      rw [List.map_cons, List.foldl_cons, if_pos (present entry (by simp))]
      exact ih fun other mem => present other (List.mem_cons_of_mem _ mem)

theorem mem_keys_insertAll {map : OrderedMap κ α} {entries : List (κ × α)} {key : κ} :
    key ∈ (map.insertAll entries).keys ↔ key ∈ entries.map Prod.fst ∨ key ∈ map.keys := by
  rw [mem_keys_iff, mem_keys_iff, get?_insertAll, Option.isSome_or, Bool.or_eq_true,
    findEntry_isSome_iff, List.map_reverse, List.mem_reverse]

theorem mem_keys_ofList {entries : List (κ × α)} {key : κ} :
    key ∈ (ofList entries).keys ↔ key ∈ entries.map Prod.fst := by
  have noKeys : key ∉ (empty : OrderedMap κ α).keys := List.not_mem_nil
  simp [ofList, mem_keys_insertAll, noKeys]

/-- New keys come after those that are present. -/
theorem keys_prefix_insertAll (map : OrderedMap κ α) (entries : List (κ × α)) :
    map.keys <+: (map.insertAll entries).keys := by
  induction entries generalizing map with
  | nil => exact List.prefix_refl _
  | cons entry rest ih =>
      have first : map.keys <+: (map.insert entry.1 entry.2).keys := by
        rw [keys_insert]
        split
        · exact List.prefix_refl _
        · exact List.prefix_append _ _
      exact first.trans (ih _)

/--
The keys of an overlay are those of the lower map, and then those that only the upper one has.
-/
theorem keys_overlay (lower upper : OrderedMap κ α) :
    (lower.overlay upper).keys =
      upper.keys.foldl (fun written key => if key ∈ written then written else written ++ [key])
        lower.keys :=
  keys_insertAll lower upper.entries

/-- An entry may be written into the upper map or into the overlay. -/
theorem overlay_insert (lower upper : OrderedMap κ α) (key : κ) (value : α) :
    lower.overlay (upper.insert key value) = (lower.overlay upper).insert key value := by
  apply eq_of_keys_eq_of_get?_eq
  · rw [keys_overlay, keys_insert, keys_insert]
    by_cases present : key ∈ upper.keys
    · rw [if_pos present, if_pos (mem_keys_overlay.mpr (Or.inl present)), keys_overlay]
    · rw [if_neg present, List.foldl_append, ← keys_overlay]
      rfl
  · intro other _
    rw [get?_overlay, get?_insert, get?_insert, get?_overlay]
    split <;> rfl

theorem overlay_insertAll (lower upper : OrderedMap κ α) (entries : List (κ × α)) :
    lower.overlay (upper.insertAll entries) = (lower.overlay upper).insertAll entries := by
  induction entries generalizing upper with
  | nil => rfl
  | cons entry rest ih =>
      calc
        lower.overlay (upper.insertAll (entry :: rest)) =
            (lower.overlay (upper.insert entry.1 entry.2)).insertAll rest := ih _
        _ = (lower.overlay upper).insertAll (entry :: rest) := by
          rw [overlay_insert]
          rfl

theorem overlay_assoc (lower middle upper : OrderedMap κ α) :
    (lower.overlay middle).overlay upper = lower.overlay (middle.overlay upper) :=
  (overlay_insertAll lower middle upper.entries).symm

/-- An overlay is covered by a second one under the same keys. -/
theorem overlay_overlay_of_keys_eq (lower : OrderedMap κ α) {first second : OrderedMap κ α}
    (sameKeys : first.keys = second.keys) :
    (lower.overlay first).overlay second = lower.overlay second := by
  have present : ∀ entry ∈ second.entries, entry.1 ∈ (lower.overlay first).keys := by
    intro entry mem
    rw [mem_keys_overlay, sameKeys]
    exact Or.inl (List.mem_map_of_mem mem)
  have keysEq : ((lower.overlay first).overlay second).keys = (lower.overlay second).keys := by
    rw [overlay, keys_insertAll_of_mem present, keys_overlay, keys_overlay, sameKeys]
  apply eq_of_keys_eq_of_get?_eq keysEq
  intro key _
  simp only [get?_overlay]
  rcases secondFound : second.get? key with _ | value
  · have firstFound : first.get? key = none := by
      rw [get?_eq_none_iff] at secondFound ⊢
      rwa [sameKeys]
    simp [firstFound]
  · simp

/-- Whether the same is found in two maps, in whatever order their keys are. -/
def SameAs (left right : OrderedMap κ α) : Prop := ∀ key, left.get? key = right.get? key

namespace SameAs

variable {left right lower upper : OrderedMap κ α}

theorem refl (map : OrderedMap κ α) : map.SameAs map := fun _ => rfl

theorem mem_keys_iff (same : left.SameAs right) {key : κ} : key ∈ left.keys ↔ key ∈ right.keys := by
  rw [OrderedMap.mem_keys_iff, OrderedMap.mem_keys_iff, same]

theorem overlay (lowers : left.SameAs right) (uppers : lower.SameAs upper) :
    (left.overlay lower).SameAs (right.overlay upper) := by
  intro key
  rw [get?_overlay, get?_overlay, lowers, uppers]

theorem mapValues (same : left.SameAs right) (replace : κ → α → β) :
    (left.mapValues replace).SameAs (right.mapValues replace) := by
  intro key
  rw [get?_mapValues, get?_mapValues, same]

end SameAs

/-- Everything that is found in the smaller map is found in the larger one too. -/
def IncludedIn (smaller larger : OrderedMap κ α) : Prop :=
  ∀ key value, smaller.get? key = some value → larger.get? key = some value

theorem IncludedIn.refl (map : OrderedMap κ α) : map.IncludedIn map :=
  fun _ _ found => found

theorem IncludedIn.trans {first second third : OrderedMap κ α}
    (left : first.IncludedIn second) (right : second.IncludedIn third) :
    first.IncludedIn third :=
  fun key value found => right key value (left key value found)

theorem IncludedIn.mem_keys {smaller larger : OrderedMap κ α} (included : smaller.IncludedIn larger)
    {key : κ} (mem : key ∈ smaller.keys) : key ∈ larger.keys := by
  rcases exists_get?_of_mem_keys mem with ⟨value, found⟩
  exact mem_keys_of_get? (included key value found)

theorem IncludedIn.get?_eq {smaller larger : OrderedMap κ α} (included : smaller.IncludedIn larger)
    {key : κ} (mem : key ∈ smaller.keys) : smaller.get? key = larger.get? key := by
  rcases exists_get?_of_mem_keys mem with ⟨value, found⟩
  rw [found, included key value found]

theorem includedIn_insert {map : OrderedMap κ α} {key : κ} (absent : map.get? key = none)
    (value : α) : map.IncludedIn (map.insert key value) := by
  intro other stored found
  rw [get?_insert]
  split
  · next same =>
    rw [same, absent] at found
    simp at found
  · exact found

/-- Two parts of a map that cover it make the map when one is laid over the other. -/
theorem overlay_sameAs_of_includedIn {first second whole : OrderedMap κ α}
    (firstIncluded : first.IncludedIn whole) (secondIncluded : second.IncludedIn whole)
    (covered : ∀ key value, whole.get? key = some value →
      first.get? key = some value ∨ second.get? key = some value) :
    (first.overlay second).SameAs whole := by
  intro key
  rw [get?_overlay]
  rcases secondFound : second.get? key with _ | value
  · rcases firstFound : first.get? key with _ | value
    · rcases found : whole.get? key with _ | value
      · rfl
      · rcases covered key value found with inFirst | inSecond
        · rw [firstFound] at inFirst
          cases inFirst
        · rw [secondFound] at inSecond
          cases inSecond
    · exact (firstIncluded key value firstFound).symm
  · exact (secondIncluded key value secondFound).symm

/-- The values that a list of entries gives a key, in order. -/
def valuesAt (key : κ) (entries : List (κ × α)) : List α :=
  entries.filterMap fun entry => if entry.1 = key then some entry.2 else none

theorem valuesAt_append (key : κ) (front back : List (κ × α)) :
    valuesAt key (front ++ back) = valuesAt key front ++ valuesAt key back :=
  List.filterMap_append

theorem valuesAt_flatMap {ι : Type} (key : κ) (items : List ι) (entriesOf : ι → List (κ × α)) :
    valuesAt key (items.flatMap entriesOf) =
      items.flatMap fun item => valuesAt key (entriesOf item) :=
  List.filterMap_flatMap

theorem mem_valuesAt_iff {key : κ} {value : α} {entries : List (κ × α)} :
    value ∈ valuesAt key entries ↔ (key, value) ∈ entries := by
  simp only [valuesAt, List.mem_filterMap, Option.ite_none_right_eq_some, Option.some.injEq]
  constructor
  · rintro ⟨⟨_, _⟩, mem, rfl, rfl⟩
    exact mem
  · intro mem
    exact ⟨(key, value), mem, rfl, rfl⟩

/-- Without repeated keys at most one value is given to a key, also if some values are dropped. -/
theorem valuesAt_filterMap (key : κ) (function : α → Option β) {entries : List (κ × α)}
    (nodup : (entries.map Prod.fst).Nodup) :
    valuesAt key (entries.filterMap fun entry =>
        (function entry.2).map fun value => (entry.1, value)) =
      ((findEntry key entries).bind function).toList := by
  induction entries with
  | nil => rfl
  | cons entry rest ih =>
      rw [List.map_cons, List.nodup_cons] at nodup
      rcases nodup with ⟨fresh, nodup⟩
      have restEq := ih nodup
      rw [List.filterMap_cons]
      by_cases same : key = entry.1
      · have absent : findEntry key rest = none := by
          rw [← Option.not_isSome_iff_eq_none, findEntry_isSome_iff, same]
          exact fresh
        rw [absent] at restEq
        rcases result : function entry.2 with _ | value
        · simpa [findEntry, same, result] using restEq
        · rw [same] at restEq
          simpa [findEntry, same, result, valuesAt] using restEq
      · have different : ¬entry.1 = key := fun eq => same eq.symm
        rcases function entry.2 with _ | value <;>
          simpa [findEntry, valuesAt, same, different] using restEq

/-- Of several values for one key the last one stays. -/
theorem get?_ofList (entries : List (κ × α)) (key : κ) :
    (ofList entries).get? key = (valuesAt key entries).getLast? := by
  rw [ofList, get?_insertAll, get?_empty, Option.or_none]
  induction entries using List.reverseRecOn with
  | nil => rfl
  | append_singleton front entry ih =>
      rw [List.reverse_append, valuesAt_append, List.getLast?_append, ← ih]
      by_cases same : key = entry.1
      · simp [findEntry, valuesAt, same]
      · have different : ¬entry.1 = key := fun eq => same eq.symm
        simp [findEntry, valuesAt, same, different]

/-- If no key is given two values, a value is found exactly if it was given. -/
theorem get?_ofList_eq_some_iff {entries : List (κ × α)}
    (functional : ∀ key value other, (key, value) ∈ entries → (key, other) ∈ entries →
      value = other) {key : κ} {value : α} :
    (ofList entries).get? key = some value ↔ (key, value) ∈ entries := by
  rw [get?_ofList]
  constructor
  · intro last
    exact mem_valuesAt_iff.mp (List.mem_of_getLast? last)
  · intro mem
    have given : valuesAt key entries ≠ [] := List.ne_nil_of_mem (mem_valuesAt_iff.mpr mem)
    have lastMem := mem_valuesAt_iff.mp (List.getLast_mem given)
    rw [List.getLast?_eq_some_getLast given, functional key _ value lastMem mem]

theorem ofList_append_singleton (front : List (κ × α)) (entry : κ × α) :
    ofList (front ++ [entry]) = (ofList front).insert entry.1 entry.2 :=
  insertAll_append empty front [entry]

/-- The keys are those of the list, each in its first place. -/
theorem keys_ofList (entries : List (κ × α)) :
    (ofList entries).keys = (entries.map Prod.fst).eraseDups := by
  induction entries using List.reverseRecOn with
  | nil => rfl
  | append_singleton front entry ih =>
      rw [ofList_append_singleton, keys_insert, List.map_append, List.eraseDups_append, ← ih]
      split
      · next present =>
        rw [mem_keys_ofList] at present
        simp [List.removeAll, present]
      · next absent =>
        rw [mem_keys_ofList] at absent
        simp [List.removeAll, absent, List.eraseDups_cons]

/-- The first entry with a key is the one that others with this key come after. -/
theorem findEntry_eq_some_iff {key : κ} {value : α} {entries : List (κ × α)} :
    findEntry key entries = some value ↔
      ∃ front back, entries = front ++ (key, value) :: back ∧ key ∉ front.map Prod.fst := by
  induction entries with
  | nil => simp [findEntry]
  | cons entry rest ih =>
      rw [findEntry]
      split
      · next same =>
        constructor
        · rintro ⟨⟩
          exact ⟨[], rest, by rw [same]; rfl, by simp⟩
        · rintro ⟨front, back, parts, fresh⟩
          rcases front with _ | ⟨first, front⟩
          · cases parts
            rfl
          · cases parts
            exact absurd (by simp [same]) fresh
      · next different =>
        rw [ih]
        constructor
        · rintro ⟨front, back, rfl, fresh⟩
          exact ⟨entry :: front, back, rfl, by simpa [different] using fresh⟩
        · rintro ⟨front, back, parts, fresh⟩
          rcases front with _ | ⟨first, front⟩
          · cases parts
            exact absurd rfl different
          · cases parts
            exact ⟨front, back, rfl, fun mem => fresh (List.mem_cons_of_mem _ mem)⟩

/-- What is found under a key is its last value. -/
theorem get?_ofList_eq_some_iff_last {entries : List (κ × α)} {key : κ} {value : α} :
    (ofList entries).get? key = some value ↔
      ∃ front back, entries = front ++ (key, value) :: back ∧ key ∉ back.map Prod.fst := by
  rw [ofList, get?_insertAll, get?_empty, Option.or_none, findEntry_eq_some_iff]
  constructor
  · rintro ⟨back, front, parts, fresh⟩
    refine ⟨front.reverse, back.reverse, ?_, by simpa using fresh⟩
    rw [List.reverse_eq_iff.mp parts]
    simp
  · rintro ⟨front, back, rfl, fresh⟩
    exact ⟨back.reverse, front.reverse, by simp, by simpa using fresh⟩

theorem insertEntry_of_notMem {key : κ} {entries : List (κ × α)}
    (absent : key ∉ entries.map Prod.fst) (value : α) :
    insertEntry key value entries = entries ++ [(key, value)] := by
  induction entries with
  | nil => rfl
  | cons entry rest ih =>
      rw [List.map_cons, List.mem_cons, not_or] at absent
      rw [insertEntry, if_neg (Ne.symm absent.1), ih absent.2, List.cons_append]

theorem entries_insert (map : OrderedMap κ α) (key : κ) (value : α) :
    (map.insert key value).entries = insertEntry key value map.entries := rfl

/-- Without repeated keys the entries are those of the list. -/
theorem entries_ofList {entries : List (κ × α)} (nodup : (entries.map Prod.fst).Nodup) :
    (ofList entries).entries = entries := by
  induction entries using List.reverseRecOn with
  | nil => rfl
  | append_singleton front entry ih =>
      rw [List.map_append, List.nodup_append] at nodup
      rcases nodup with ⟨frontNodup, _, apart⟩
      have absent : entry.1 ∉ front.map Prod.fst :=
        fun mem => apart entry.1 mem entry.1 (by simp) rfl
      rw [ofList_append_singleton, entries_insert, ih frontNodup, insertEntry_of_notMem absent]

end EntityCatalog.OrderedMap
