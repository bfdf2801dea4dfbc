import Mathlib.Order.WellFounded
import EntityCatalog.Proofs.Precedence
import EntityCatalog.Proofs.ReferenceGraph.Agenda

/-!
# The dependency order

A dependency order lists every node of its graph exactly once, and what a node refers to before the
node itself. There is one exactly if no node refers to itself, not even through others. It depends
on the nodes and edges of the graph only, not on how they are listed.
-/

namespace EntityCatalog.ReferenceGraph

variable {graph left right : ReferenceGraph} {unlisted listing : List Identifier}

def RefersTo (graph : ReferenceGraph) (source target : Identifier) : Prop :=
  (source, target) ∈ graph.edges

/-- Whether no node refers to itself, not even through others. -/
def IsAcyclic (graph : ReferenceGraph) : Prop :=
  ∀ node, ¬Relation.TransGen graph.RefersTo node node

/-- Leaving out references makes no new circles. -/
theorem IsAcyclic.mono (acyclic : right.IsAcyclic)
    (fewer : ∀ source target, left.RefersTo source target → right.RefersTo source target) :
    left.IsAcyclic :=
  fun node circle => acyclic node (Relation.TransGen.mono fewer node node circle)

theorem listing?_perm (listed : graph.listing? unlisted = some listing) :
    listing.Perm unlisted := by
  fun_induction graph.listing? unlisted generalizing listing with
  | case1 =>
      simp only [Option.some.injEq] at listed
      rw [← listed]
  | case2 => simp at listed
  | case3 unlisted node next ih =>
      rcases Option.map_eq_some_iff.mp listed with ⟨rest, restListed, rfl⟩
      have restPerm := ih restListed
      exact (restPerm.cons node).trans
        (List.perm_cons_erase (mem_of_nextNode?_eq_some next)).symm

theorem dependencyOrder?_perm (listed : graph.dependencyOrder? = some listing) :
    listing.Perm graph.nodes := by
  rw [dependencyOrder?_eq_listing?] at listed
  exact listing?_perm listed

theorem dependencyOrder?_nodup (listed : graph.dependencyOrder? = some listing) :
    listing.Nodup :=
  (dependencyOrder?_perm listed).nodup_iff.mpr graph.nodup_nodes

theorem isReady_iff {node : Identifier} :
    graph.isReady unlisted node = true ↔
      ∀ target, graph.RefersTo node target → target ∉ unlisted := by
  simp [isReady, mem_targets_iff, RefersTo]

theorem nextNode?_eq_some_iff {node : Identifier} :
    graph.nextNode? unlisted = some node ↔
      (node ∈ unlisted ∧ graph.isReady unlisted node = true) ∧
        ∀ other ∈ unlisted, graph.isReady unlisted other = true → node ≤ other := by
  rw [nextNode?, List.min?_eq_some_iff]
  simp only [List.mem_filter, and_imp]

/-- What a node refers to is listed before it. -/
theorem precedes_of_listing? (listed : graph.listing? unlisted = some listing)
    {source target : Identifier} (refers : graph.RefersTo source target)
    (sourceMem : source ∈ unlisted) (targetMem : target ∈ unlisted) :
    Precedes listing target source := by
  fun_induction graph.listing? unlisted generalizing listing with
  | case1 => cases sourceMem
  | case2 => simp at listed
  | case3 unlisted node next ih =>
      rcases Option.map_eq_some_iff.mp listed with ⟨rest, restListed, rfl⟩
      -- The first node refers to no unlisted one, so the edge does not start from it.
      have different : source ≠ node := by
        intro same
        have ready := (nextNode?_eq_some_iff.mp next).1.2
        exact isReady_iff.mp ready target (same ▸ refers) targetMem
      have sourceLater : source ∈ unlisted.erase node :=
        (List.mem_erase_of_ne different).mpr sourceMem
      rw [Precedes.cons_iff]
      by_cases first : target = node
      · exact Or.inl ⟨first, (listing?_perm restListed).mem_iff.mpr sourceLater⟩
      · exact Or.inr (ih restListed sourceLater ((List.mem_erase_of_ne first).mpr targetMem))

theorem precedes_of_transGen (listed : graph.dependencyOrder? = some listing)
    {source target : Identifier} (refers : Relation.TransGen graph.RefersTo source target) :
    Precedes listing target source := by
  have edge {source target : Identifier} (refers : graph.RefersTo source target) :
      Precedes listing target source := by
    rw [dependencyOrder?_eq_listing?] at listed
    exact precedes_of_listing? listed refers (graph.source_mem_nodes _ refers)
      (graph.target_mem_nodes _ refers)
  induction refers with
  | single refers => exact edge refers
  | tail _ refers ih => exact (edge refers).trans (dependencyOrder?_nodup listed) ih

/-- Without circles some unlisted node is ready. -/
theorem nextNode?_ne_none (acyclic : graph.IsAcyclic) (nonempty : unlisted ≠ []) :
    graph.nextNode? unlisted ≠ none := by
  have ends : WellFounded (flip graph.RefersTo) :=
    wellFounded_of_acyclic (fun _ _ refers => graph.source_mem_nodes _ refers) acyclic
  rcases ends.has_min { node | node ∈ unlisted } (List.exists_mem_of_ne_nil unlisted nonempty) with
    ⟨node, mem, least⟩
  have ready : graph.isReady unlisted node = true := by
    rw [isReady_iff]
    intro target refers targetMem
    exact least target targetMem refers
  intro none
  have listed : node ∈ unlisted.filter (graph.isReady unlisted) :=
    List.mem_filter.mpr ⟨mem, ready⟩
  rw [List.min?_eq_none_iff.mp none] at listed
  cases listed

theorem isSome_listing? (acyclic : graph.IsAcyclic) (unlisted : List Identifier) :
    (graph.listing? unlisted).isSome := by
  fun_induction graph.listing? unlisted with
  | case1 => rfl
  | case2 unlisted next nonempty => exact absurd next (nextNode?_ne_none acyclic nonempty)
  | case3 unlisted node next ih => simpa using ih

/-- There is a dependency order exactly if there are no circles. -/
theorem isSome_dependencyOrder?_iff :
    graph.dependencyOrder?.isSome ↔ graph.IsAcyclic := by
  constructor
  · intro some node circle
    rcases Option.isSome_iff_exists.mp some with ⟨listing, listed⟩
    exact Precedes.irrefl (dependencyOrder?_nodup listed) node (precedes_of_transGen listed circle)
  · intro acyclic
    rw [dependencyOrder?_eq_listing?]
    exact isSome_listing? acyclic graph.nodes

section Congruence

variable (sameEdges : ∀ edge, edge ∈ left.edges ↔ edge ∈ right.edges)

include sameEdges

/-- The least ready node is the same for all ways to list the nodes and edges. -/
theorem nextNode?_congr {leftUnlisted rightUnlisted : List Identifier}
    (same : leftUnlisted.Perm rightUnlisted) :
    left.nextNode? leftUnlisted = right.nextNode? rightUnlisted := by
  apply Option.ext
  intro node
  simp only [nextNode?_eq_some_iff, isReady_iff, RefersTo, sameEdges, same.mem_iff]

theorem listing?_congr {leftUnlisted rightUnlisted : List Identifier}
    (same : leftUnlisted.Perm rightUnlisted) :
    left.listing? leftUnlisted = right.listing? rightUnlisted := by
  fun_induction left.listing? leftUnlisted generalizing rightUnlisted with
  | case1 next =>
      rw [nextNode?_congr sameEdges same] at next
      rw [listing?_of_nextNode?_eq_none next, if_pos same.nil_eq.symm]
  | case2 unlisted next nonempty =>
      rw [nextNode?_congr sameEdges same] at next
      rw [listing?_of_nextNode?_eq_none next, if_neg]
      intro empty
      rw [empty] at same
      exact nonempty same.eq_nil
  | case3 unlisted node next ih =>
      rw [nextNode?_congr sameEdges same] at next
      rw [listing?_of_nextNode?_eq_some next, ih (same.erase node)]

/-- The dependency order depends on the nodes and edges of a graph only. -/
theorem dependencyOrder?_congr (sameNodes : ∀ node, node ∈ left.nodes ↔ node ∈ right.nodes) :
    left.dependencyOrder? = right.dependencyOrder? := by
  rw [dependencyOrder?_eq_listing?, dependencyOrder?_eq_listing?]
  have same : left.nodes.Perm right.nodes :=
    (List.perm_ext_iff_of_nodup left.nodup_nodes right.nodup_nodes).mpr sameNodes
  exact listing?_congr sameEdges same

end Congruence

end EntityCatalog.ReferenceGraph
