import Mathlib.Data.Fintype.Card
import Mathlib.Data.List.Nodup
import Mathlib.Data.List.Sublists
import Mathlib.Data.Set.Finite.Basic

/-!
# Precedence in a list

In a list without repetitions one of any two different items precedes the other, and never both.
If every item contributes a block of values, the last value of all comes from an item that precedes
none of those that contribute anything. A relation from the items of a list can only be followed
for ever if it leads in a circle.
-/

namespace EntityCatalog

variable {ι α : Type}

/-- Whether a list has one item somewhere before another one. -/
def Precedes (items : List ι) (earlier later : ι) : Prop := [earlier, later].Sublist items

namespace Precedes

theorem cons_iff {head earlier later : ι} {rest : List ι} :
    Precedes (head :: rest) earlier later ↔
      earlier = head ∧ later ∈ rest ∨ Precedes rest earlier later := by
  rw [Precedes, List.cons_sublist_cons', List.singleton_sublist, or_comm]
  rfl

theorem mem_later {items : List ι} {earlier later : ι} (order : Precedes items earlier later) :
    later ∈ items :=
  List.Sublist.subset order (by simp)

theorem trans {items : List ι} (nodup : items.Nodup) {first second third : ι}
    (front : Precedes items first second) (back : Precedes items second third) :
    Precedes items first third := by
  induction items with
  | nil => simp [Precedes] at front
  | cons head rest ih =>
      rw [List.nodup_cons] at nodup
      rcases nodup with ⟨fresh, nodup⟩
      rw [cons_iff] at front back ⊢
      rcases front with ⟨rfl, secondMem⟩ | front
      · rcases back with ⟨rfl, _⟩ | back
        · exact absurd secondMem fresh
        · exact Or.inl ⟨rfl, back.mem_later⟩
      · rcases back with ⟨rfl, _⟩ | back
        · exact absurd front.mem_later fresh
        · exact Or.inr (ih nodup front back)

theorem asymm {items : List ι} (nodup : items.Nodup) {earlier later : ι}
    (order : Precedes items earlier later) : ¬Precedes items later earlier := by
  induction items with
  | nil => simp [Precedes] at order
  | cons head rest ih =>
      rw [List.nodup_cons] at nodup
      rcases nodup with ⟨fresh, nodup⟩
      rw [cons_iff] at order ⊢
      rintro (⟨rfl, earlierMem⟩ | reversed)
      · rcases order with ⟨rfl, laterMem⟩ | order
        · exact fresh laterMem
        · exact fresh order.mem_later
      · rcases order with ⟨rfl, _⟩ | order
        · exact fresh reversed.mem_later
        · exact ih nodup order reversed

theorem irrefl {items : List ι} (nodup : items.Nodup) (item : ι) : ¬Precedes items item item :=
  fun order => asymm nodup order order

theorem total {items : List ι} {left right : ι} (leftMem : left ∈ items)
    (rightMem : right ∈ items) (different : left ≠ right) :
    Precedes items left right ∨ Precedes items right left := by
  induction items with
  | nil => simp at leftMem
  | cons head rest ih =>
      rw [cons_iff, cons_iff]
      rcases List.mem_cons.mp leftMem with rfl | leftRest
      · have rightRest := List.mem_of_ne_of_mem different.symm rightMem
        exact Or.inl (Or.inl ⟨rfl, rightRest⟩)
      · rcases List.mem_cons.mp rightMem with rfl | rightRest
        · exact Or.inr (Or.inl ⟨rfl, leftRest⟩)
        · rcases ih leftRest rightRest with order | order
          · exact Or.inl (Or.inr order)
          · exact Or.inr (Or.inr order)

theorem of_append {front back : List ι} {earlier later : ι} (earlierMem : earlier ∈ front)
    (laterMem : later ∈ back) : Precedes (front ++ back) earlier later :=
  List.Sublist.append (List.singleton_sublist.mpr earlierMem)
    (List.singleton_sublist.mpr laterMem)

theorem exists_split {items : List ι} {earlier later : ι} (order : Precedes items earlier later) :
    ∃ front back, items = front ++ later :: back ∧ earlier ∈ front := by
  induction items with
  | nil => simp [Precedes] at order
  | cons head rest ih =>
      rcases cons_iff.mp order with ⟨rfl, laterMem⟩ | order
      · rcases List.append_of_mem laterMem with ⟨front, back, rfl⟩
        exact ⟨earlier :: front, back, rfl, List.mem_cons_self⟩
      · rcases ih order with ⟨front, back, rfl, earlierMem⟩
        exact ⟨head :: front, back, rfl, List.mem_cons_of_mem head earlierMem⟩

end Precedes

/-- An item of a list with a last one is that one, or one of those before it. -/
theorem split_append_singleton {front earlier back : List ι} {last item : ι}
    (split : front ++ [last] = earlier ++ item :: back) :
    (front = earlier ∧ last = item ∧ back = []) ∨
      ∃ middle, front = earlier ++ item :: middle ∧ back = middle ++ [last] := by
  rcases List.eq_nil_or_concat back with rfl | ⟨middle, final, rfl⟩
  · rcases List.append_inj' split rfl with ⟨frontEq, lastEq⟩
    exact Or.inl ⟨frontEq, List.singleton_inj.mp lastEq, rfl⟩
  · have splitFront : front ++ [last] = (earlier ++ item :: middle) ++ [final] := by
      simpa using split
    rcases List.append_inj' splitFront rfl with ⟨frontEq, lastEq⟩
    rw [List.singleton_inj.mp lastEq]
    exact Or.inr ⟨middle, frontEq, List.concat_eq_append⟩

/-- A relation from finitely many sources that leads in no circle cannot be followed for ever. -/
theorem wellFounded_of_acyclic {relation : ι → ι → Prop} {sources : List ι}
    (source_mem : ∀ source target, relation source target → source ∈ sources)
    (acyclic : ∀ item, ¬Relation.TransGen relation item item) : WellFounded (flip relation) := by
  let later (next current : { item // item ∈ sources }) : Prop :=
    Relation.TransGen relation current.1 next.1
  have finite : Finite { item // item ∈ sources } := (List.finite_toSet sources).to_subtype
  have transitive : IsTrans _ later := ⟨fun _ _ _ first second => second.trans first⟩
  have irreflexive : Std.Irrefl later := ⟨fun item => acyclic item.1⟩
  have listed : WellFounded later := Finite.wellFounded_of_trans_of_irrefl later
  have unlisted {item : ι} (absent : item ∉ sources) : Acc (flip relation) item :=
    Acc.intro _ fun target related => absurd (source_mem item target related) absent
  have sourceAcc (source : { item // item ∈ sources }) : Acc (flip relation) source.1 := by
    induction source using listed.induction with
    | _ current ih =>
        refine Acc.intro _ fun next related => ?_
        by_cases mem : next ∈ sources
        · exact ih ⟨next, mem⟩ (.single related)
        · exact unlisted mem
  refine ⟨fun item => ?_⟩
  by_cases mem : item ∈ sources
  · exact sourceAcc ⟨item, mem⟩
  · exact unlisted mem

/-- The last value of several blocks is the last one of the last block that has any. -/
theorem getLast?_flatMap_eq_some_iff {items : List ι} (nodup : items.Nodup)
    (blocks : ι → List α) (value : α) :
    (items.flatMap blocks).getLast? = some value ↔
      ∃ item ∈ items, (blocks item).getLast? = some value ∧
        ∀ later, Precedes items item later → blocks later = [] := by
  induction items with
  | nil => simp
  | cons head rest ih =>
      rw [List.nodup_cons] at nodup
      rcases nodup with ⟨fresh, nodup⟩
      rw [List.flatMap_cons, List.getLast?_append, Option.or_eq_some_iff, ih nodup]
      simp only [Precedes.cons_iff, List.mem_cons, List.getLast?_eq_none_iff,
        List.flatMap_eq_nil_iff]
      constructor
      · rintro (⟨item, mem, last, none⟩ | ⟨none, last⟩)
        · refine ⟨item, Or.inr mem, last, ?_⟩
          rintro later (⟨rfl, _⟩ | order)
          · exact absurd mem fresh
          · exact none later order
        · refine ⟨head, Or.inl rfl, last, ?_⟩
          rintro later (⟨_, mem⟩ | order)
          · exact none later mem
          · exact none later order.mem_later
      · rintro ⟨item, rfl | mem, last, none⟩
        · exact Or.inr ⟨fun later mem => none later (Or.inl ⟨rfl, mem⟩), last⟩
        · exact Or.inl ⟨item, mem, last, fun later order => none later (Or.inr order)⟩

end EntityCatalog
