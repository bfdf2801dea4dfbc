import EntityCatalog.Record

/-!
# Outcomes of calculations

A calculation in several steps succeeds if all of its steps do, and so does a check of several
parts. It fails with the first step that does.
-/

namespace EntityCatalog

section Except

variable {ε δ α β : Type}

theorem bind_eq_ok_iff {first : Except ε α} {next : α → Except ε β} {result : β} :
    (first >>= next) = .ok result ↔ ∃ value, first = .ok value ∧ next value = .ok result := by
  rcases first with error | value <;> simp [bind, Except.bind]

theorem bind_eq_error_iff {first : Except ε α} {next : α → Except ε β} {error : ε} :
    (first >>= next) = .error error ↔
      first = .error error ∨ ∃ value, first = .ok value ∧ next value = .error error := by
  rcases first with other | value <;> simp [bind, Except.bind]

theorem map_eq_ok_iff {outcome : Except ε α} {function : α → β} {result : β} :
    outcome.map function = .ok result ↔
      ∃ value, outcome = .ok value ∧ function value = result := by
  rcases outcome with error | value <;> simp [Except.map]

theorem mapError_eq_ok_iff {outcome : Except ε α} {wrap : ε → δ} {result : α} :
    outcome.mapError wrap = .ok result ↔ outcome = .ok result := by
  rcases outcome with error | value
  · exact ⟨nofun, nofun⟩
  · change Except.ok value = .ok result ↔ _
    simp only [Except.ok.injEq]

theorem mapError_eq_error_iff {outcome : Except ε α} {wrap : ε → δ} {error : δ} :
    outcome.mapError wrap = .error error ↔
      ∃ fault, outcome = .error fault ∧ wrap fault = error := by
  rcases outcome with fault | value
  · change Except.error (wrap fault) = .error error ↔ _
    simp
  · exact ⟨nofun, nofun⟩

theorem mapM_eq_ok_iff {calculate : α → Except ε β} {items : List α} {results : List β} :
    items.mapM calculate = .ok results ↔ results.map .ok = items.map calculate := by
  induction items generalizing results with
  | nil => simp [pure, Except.pure, eq_comm]
  | cons item rest ih =>
      rw [List.mapM_cons, bind_eq_ok_iff, List.map_cons, List.map_eq_cons_iff]
      constructor
      · rintro ⟨head, first, calculated⟩
        rcases bind_eq_ok_iff.mp calculated with ⟨tail, others, ⟨⟩⟩
        exact ⟨head, tail, rfl, first.symm, ih.mp others⟩
      · rintro ⟨head, tail, rfl, first, others⟩
        exact ⟨head, first.symm, bind_eq_ok_iff.mpr ⟨tail, ih.mpr others, rfl⟩⟩

theorem exists_of_mem_mapM {calculate : α → Except ε β} {items : List α} {results : List β}
    (calculated : items.mapM calculate = .ok results) {result : β} (mem : result ∈ results) :
    ∃ item ∈ items, calculate item = .ok result := by
  have listed : .ok result ∈ results.map (Except.ok (ε := ε)) := List.mem_map_of_mem mem
  rw [mapM_eq_ok_iff.mp calculated] at listed
  exact List.mem_map.mp listed

/-- A calculation for several items fails if the one for some item does. -/
theorem exists_of_mapM_eq_error {calculate : α → Except ε β} {items : List α} {error : ε}
    (failed : items.mapM calculate = .error error) :
    ∃ item ∈ items, calculate item = .error error := by
  induction items with
  | nil => cases failed
  | cons item rest ih =>
      rw [List.mapM_cons] at failed
      rcases bind_eq_error_iff.mp failed with first | ⟨_, _, failed⟩
      · exact ⟨item, List.mem_cons_self, first⟩
      · rcases bind_eq_error_iff.mp failed with others | ⟨_, _, ⟨⟩⟩
        rcases ih others with ⟨later, mem, laterFailed⟩
        exact ⟨later, List.mem_cons_of_mem _ mem, laterFailed⟩

end Except

namespace Checked

variable {α β : Type}

theorem toExcept_eq_ok_iff {checked : Checked α} {title : String} {value : α} :
    checked.toExcept title = .ok value ↔ checked = .valid value := by
  rcases checked with other | issues <;> simp [toExcept]

theorem seq_eq_valid_iff {function : Checked (α → β)} {argument : Checked α} {result : β} :
    function <*> argument = .valid result ↔
      ∃ apply value, function = .valid apply ∧ argument = .valid value ∧
        apply value = result := by
  change function.apply argument = .valid result ↔ _
  rcases function with apply | issues <;> rcases argument with value | otherIssues <;>
    simp [Checked.apply]

theorem map_eq_valid_iff {function : α → β} {argument : Checked α} {result : β} :
    function <$> argument = .valid result ↔
      ∃ value, argument = .valid value ∧ function value = result := by
  change Checked.apply (.valid function) argument = .valid result ↔ _
  rcases argument with value | issues <;> simp [Checked.apply]

theorem andThen_eq_valid_iff {checked : Checked α} {next : α → Checked β} {result : β} :
    checked.andThen next = .valid result ↔
      ∃ value, checked = .valid value ∧ next value = .valid result := by
  rcases checked with value | issues <;> simp [andThen]

theorem behind_eq_valid_iff {step : LocationStep} {checked : Checked α} {value : α} :
    checked.behind step = .valid value ↔ checked = .valid value := by
  rcases checked with other | issues <;> simp [behind]

end Checked

end EntityCatalog
