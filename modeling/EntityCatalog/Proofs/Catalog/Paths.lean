import EntityCatalog.Proofs.Catalog.Termination
import EntityCatalog.Proofs.Outcome

/-!
# Paths of problems

The path at which an evaluation starts stands in front of the paths of all its problems and makes
no other difference. So whether there are problems, and whether there is an answer at all, does not
depend on it.
-/

namespace EntityCatalog

variable {τ : Type}

/-- A problem of a part, at its place in the whole. -/
def Problem.behind (front : String) (problem : Problem) : Problem :=
  { problem with path := front ++ problem.path }

/-- The answer about a part, with its problems at their places in the whole. -/
def problemsBehind (front : String) (answer : Evaluation (List Problem)) :
    Evaluation (List Problem) :=
  answer.map (List.map (Problem.behind front))

section Behind

variable (front path : String)

@[simp]
theorem problemsBehind_ok (problems : List Problem) :
    problemsBehind front (.ok problems) = .ok (problems.map (Problem.behind front)) := rfl

@[simp]
theorem problemsBehind_error (halt : Halt) : problemsBehind front (.error halt) = .error halt := rfl

theorem problemsBehind_eq_ok_nil_iff {front : String} {answer : Evaluation (List Problem)} :
    problemsBehind front answer = .ok [] ↔ answer = .ok [] := by
  cases answer <;> simp

theorem itemPath_append (position : Nat) :
    itemPath (front ++ path) position = front ++ itemPath path position := by
  simp only [itemPath, String.append_assoc]

theorem entryPath_append (key : Identifier) :
    entryPath (front ++ path) key = front ++ entryPath path key := by
  simp only [entryPath, String.append_assoc]

theorem problemUnless_append (holds : Bool) (reason : Reason) :
    problemUnless holds (front ++ path) reason =
      (problemUnless holds path reason).map (Problem.behind front) := by
  cases holds <;> simp [problemUnless, Problem.behind]

theorem missingKeys_append (entries : List (Value × Value)) (required : List Identifier) :
    missingKeys (front ++ path) entries required =
      (missingKeys path entries required).map (Problem.behind front) := by
  simp [missingKeys, Problem.behind]

theorem lengthProblems_append (limit : Quantity) (value : Value) :
    lengthProblems (front ++ path) limit value =
      problemsBehind front (lengthProblems path limit value) := by
  unfold lengthProblems
  split
  · split <;> simp [problemUnless_append]
  · simp [Problem.behind]

end Behind

section Texts

/-- The texts of the problems in an answer. -/
def problemTexts (answer : Evaluation (List Problem)) : Evaluation (List String) :=
  answer.map (List.map Problem.text)

/-- The reasons for the problems in an answer. -/
def problemReasons (answer : Evaluation (List Problem)) : Evaluation (List Reason) :=
  answer.map (List.map Problem.reason)

variable (front : String) (answer : Evaluation (List Problem))

theorem Problem.text_behind (problem : Problem) :
    (problem.behind front).text = front ++ problem.text := by
  simp only [Problem.text, Problem.behind, String.append_assoc]

theorem problemTexts_behind :
    problemTexts (problemsBehind front answer) = (problemTexts answer).map (List.map (front ++ ·)) := by
  rcases answer with halt | problems
  · rfl
  · simp [problemTexts, Except.map, Problem.text_behind]

theorem problemReasons_behind :
    problemReasons (problemsBehind front answer) = problemReasons answer := by
  rcases answer with halt | problems
  · rfl
  · simp [problemReasons, Except.map, Problem.behind]

theorem isEmpty_eq_problemReasons :
    (do
      let problems ← answer
      .ok problems.isEmpty : Evaluation Bool) = (problemReasons answer).map List.isEmpty := by
  rcases answer with halt | problems
  · rfl
  · simp [problemReasons, bind, Except.bind, Except.map]

end Texts

section Items

variable {α : Type} {explain other : α → Evaluation (List Problem)} {items : List α}
  {front : String} (behind : ∀ item, other item = problemsBehind front (explain item))

include behind

theorem collectProblems_behind :
    collectProblems other items = problemsBehind front (collectProblems explain items) := by
  induction items with
  | nil => rfl
  | cons item rest ih =>
      rw [collectProblems, collectProblems, behind, ih]
      rcases explain item with halt | problems
      · rfl
      · rcases collectProblems explain rest with halt | others <;>
          simp [bind, Except.bind]

theorem firstProblems_behind :
    firstProblems other items = problemsBehind front (firstProblems explain items) := by
  induction items with
  | nil => rfl
  | cons item rest ih =>
      rw [firstProblems, firstProblems, behind, ih]
      rcases explain item with halt | problems
      · rfl
      · by_cases empty : problems = [] <;> simp [bind, Except.bind, empty]

end Items

namespace Catalog

variable [Transform τ] {catalog : Catalog τ}

section Step

variable {explain : Validator τ → Value → String → Evaluation (List Problem)} {front : String}
  (shift : ∀ validator value path,
    explain validator value (front ++ path) = problemsBehind front (explain validator value path))

include shift

omit [Transform τ] in
theorem explainEntry_append (entries : List (Value × Value)) (path : String) (key : Identifier) :
    catalog.explainEntry explain entries (front ++ path) key =
      problemsBehind front (catalog.explainEntry explain entries path key) := by
  unfold explainEntry
  split
  · rw [entryPath_append, shift]
  · rfl

/-- A level puts the front before its own problems if the next one does. -/
theorem explainStep_append (validator : Validator τ) (value : Value) (path : String) :
    catalog.explainStep explain validator value (front ++ path) =
      problemsBehind front (catalog.explainStep explain validator value path) := by
  cases validator with
  | base typeName =>
      simp only [explainStep]
      split <;> simp [problemUnless_append]
  | reference target =>
      simp only [explainStep]
      split
      · rfl
      · exact shift _ value path
  | oneOf labels => simp [explainStep, problemUnless_append]
  | maxLength limit => exact lengthProblems_append front path limit value
  | allOf parts => exact firstProblems_behind fun part => shift part value path
  | transformed inner transform =>
      simp only [explainStep]
      split
      · next stored _ => exact shift inner stored path
      · rfl
      · rfl
  | nullable inner =>
      simp only [explainStep]
      split
      · rfl
      · exact shift inner value path
  | collection inner =>
      have items (item : Value × Nat) :
          explain inner item.1 (itemPath (front ++ path) item.2) =
            problemsBehind front (explain inner item.1 (itemPath path item.2)) := by
        rw [itemPath_append, shift]
      simp only [explainStep]
      split
      · exact collectProblems_behind items
      · exact collectProblems_behind items
      · rfl
  | keys required optional =>
      simp only [explainStep]
      split
      · next entries =>
        rw [collectProblems_behind fun key => explainEntry_append shift entries path key,
          missingKeys_append]
        rcases collectProblems (catalog.explainEntry explain entries path)
          (Validator.allKeys required optional) with halt | problems <;> simp [bind, Except.bind]
      · rfl
  | foreign foreign => rfl

end Step

theorem explainWithin_append (catalog : Catalog τ) (front : String) (levels : Nat)
    (validator : Validator τ) (value : Value) (path : String) :
    catalog.explainWithin levels validator value (front ++ path) =
      problemsBehind front (catalog.explainWithin levels validator value path) := by
  induction levels generalizing validator value path with
  | zero => rfl
  | succ levels ih =>
      rw [explainWithin_succ, explainWithin_succ]
      exact explainStep_append ih validator value path

variable {levels : Nat} {validator : Validator τ} {value : Value}

theorem explainWithin_eq_behind (path : String) :
    catalog.explainWithin levels validator value path =
      problemsBehind path (catalog.explainWithin levels validator value "") := by
  rw [← explainWithin_append, String.append_empty]

theorem explainWithin_eq_ok_nil_iff_of_path (path other : String) :
    catalog.explainWithin levels validator value path = .ok [] ↔
      catalog.explainWithin levels validator value other = .ok [] := by
  rw [explainWithin_eq_behind path, explainWithin_eq_behind other, problemsBehind_eq_ok_nil_iff,
    problemsBehind_eq_ok_nil_iff]

/--
However many levels there are, putting a text in front of the path puts it in front of the text of
each problem and makes no other difference; a failure stays the same. So the reasons in their order
do not depend on the path, each text starts with the path, and whether a value is valid for a listed
identifier is whether it conforms to the validator.
-/
theorem problemTexts_explain_append (catalog : Catalog τ) (validator : Validator τ) (value : Value)
    (front path : String) :
    (∀ levels, problemTexts (catalog.explainWithin levels validator value (front ++ path)) =
        (problemTexts (catalog.explainWithin levels validator value path)).map
          (List.map (front ++ ·))) ∧
      (∀ levels other, problemReasons (catalog.explainWithin levels validator value path) =
        problemReasons (catalog.explainWithin levels validator value other)) ∧
      (∀ levels texts, problemTexts (catalog.explainWithin levels validator value path) = .ok texts →
        ∀ text ∈ texts, ∃ rest, text = path ++ rest) ∧
      ∀ identifier, catalog.find? identifier = some validator →
        problemTexts (catalog.explainListed identifier value) =
            (problemTexts (catalog.explain validator value "")).map
              (List.map (identifier.text ++ ·)) ∧
          catalog.isValid identifier value = catalog.conforms validator value := by
  have reasons (levels : Nat) (path other : String) :
      problemReasons (catalog.explainWithin levels validator value path) =
        problemReasons (catalog.explainWithin levels validator value other) := by
    rw [explainWithin_eq_behind path, explainWithin_eq_behind other, problemReasons_behind,
      problemReasons_behind]
  refine ⟨?_, fun levels other => reasons levels path other, ?_, ?_⟩
  · intro levels
    rw [explainWithin_append, problemTexts_behind]
  · intro levels texts found text mem
    rw [explainWithin_eq_behind, problemTexts_behind] at found
    rcases map_eq_ok_iff.mp found with ⟨rests, _, rfl⟩
    rcases List.mem_map.mp mem with ⟨rest, _, rfl⟩
    exact ⟨rest, rfl⟩
  · intro identifier listed
    have asked : catalog.explainListed identifier value =
        catalog.explain validator value identifier.text := by
      rw [explainListed, listed]
    constructor
    · rw [asked, explain, explainWithin_eq_behind, problemTexts_behind]
      rfl
    · rw [isValid, conforms, asked, isEmpty_eq_problemReasons, isEmpty_eq_problemReasons]
      exact congrArg _ (reasons greatestDepth identifier.text "value")

end Catalog

end EntityCatalog
