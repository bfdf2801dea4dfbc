import EntityCatalog.Proofs.ReferenceGraph
import EntityCatalog.Proofs.Registration.Failure

/-!
# The canonical listing

A node is available after some others if it is none of them and refers to no node but these. A
listing of all nodes is canonical if each of its nodes is the least of those that are available
after the nodes in front of it. A graph has at most one canonical listing, and it has one exactly if
it has no circles; then this is the order of declaration. So the order neither depends on how the
nodes and edges are given nor on anything else but these two sets.
-/

namespace EntityCatalog

namespace ReferenceGraph

variable {graph : ReferenceGraph} {unlisted listing front : List Identifier}
  {node other : Identifier}

/-- Whether a node that is not listed yet can be listed after some others. -/
structure Available (graph : ReferenceGraph) (listed : List Identifier) (node : Identifier) :
    Prop where
  mem_nodes : node ∈ graph.nodes
  notMem_listed : node ∉ listed
  target_mem_listed : ∀ target, graph.RefersTo node target → target ∈ listed

/-- Whether all nodes are listed, each time the least of the available ones. -/
structure IsCanonical (graph : ReferenceGraph) (listing : List Identifier) : Prop where
  perm : listing.Perm graph.nodes
  available : ∀ front node back, listing = front ++ node :: back → graph.Available front node
  least : ∀ front node back, listing = front ++ node :: back →
    ∀ other, graph.Available front other → node ≤ other

theorem listing?_eq_some_nil_iff : graph.listing? unlisted = some [] ↔ unlisted = [] := by
  constructor
  · intro listed
    exact (listing?_perm listed).nil_eq.symm
  · rintro rfl
    rw [listing?_of_nextNode?_eq_none rfl, if_pos rfl]

theorem listing?_eq_some_cons_iff {first : Identifier} {rest : List Identifier} :
    graph.listing? unlisted = some (first :: rest) ↔
      graph.nextNode? unlisted = some first ∧
        graph.listing? (unlisted.erase first) = some rest := by
  rcases next : graph.nextNode? unlisted with _ | found
  · rw [listing?_of_nextNode?_eq_none next]
    split <;> simp
  · rw [listing?_of_nextNode?_eq_some next]
    simp only [Option.map_eq_some_iff, List.cons.injEq, Option.some.injEq]
    constructor
    · rintro ⟨_, restListed, rfl, rfl⟩
      exact ⟨rfl, restListed⟩
    · rintro ⟨rfl, restListed⟩
      exact ⟨rest, restListed, rfl, rfl⟩

/-- Nodes are listed in a certain order exactly if each of them is the next one in its turn. -/
theorem listing?_eq_some_iff (nodup : unlisted.Nodup) :
    graph.listing? unlisted = some listing ↔
      listing.Perm unlisted ∧ ∀ front node back, listing = front ++ node :: back →
        graph.nextNode? (unlisted.filter fun left => left ∉ front) = some node := by
  induction listing generalizing unlisted with
  | nil =>
      rw [listing?_eq_some_nil_iff]
      constructor
      · rintro rfl
        exact ⟨.refl _, by simp⟩
      · rintro ⟨perm, _⟩
        exact perm.nil_eq.symm
  | cons first rest ih =>
      have without (front : List Identifier) :
          (unlisted.erase first).filter (fun left => left ∉ front) =
            unlisted.filter fun left => left ∉ first :: front := by
        rw [nodup.erase_eq_filter, List.filter_filter]
        apply List.filter_congr
        intro left _
        rw [Bool.eq_iff_iff]
        simp [and_comm]
      rw [listing?_eq_some_cons_iff, ih (nodup.erase first)]
      simp only [without]
      constructor
      · rintro ⟨next, perm, turns⟩
        have mem := mem_of_nextNode?_eq_some next
        refine ⟨(perm.cons first).trans (List.perm_cons_erase mem).symm, ?_⟩
        intro front node back split
        rcases front with _ | ⟨head, front⟩
        · rw [List.nil_append, List.cons.injEq] at split
          simpa [← split.1] using next
        · rw [List.cons_append, List.cons.injEq] at split
          rw [← split.1]
          exact turns front node back split.2
      · rintro ⟨perm, turns⟩
        refine ⟨by simpa using turns [] first rest rfl, ?_, ?_⟩
        · simpa using perm.erase first
        · intro front node back split
          exact turns (first :: front) node back (by rw [split, List.cons_append])

/-- The next node is the least of the available ones. -/
theorem nextNode?_filter_eq_some_iff :
    graph.nextNode? (graph.nodes.filter fun left => left ∉ front) = some node ↔
      graph.Available front node ∧ ∀ other, graph.Available front other → node ≤ other := by
  have available (other : Identifier) :
      (other ∈ graph.nodes.filter (fun left => left ∉ front) ∧
        graph.isReady (graph.nodes.filter fun left => left ∉ front) other = true) ↔
        graph.Available front other := by
    simp only [isReady_iff, List.mem_filter, decide_eq_true_eq, not_and, not_not]
    constructor
    · rintro ⟨⟨mem, notMem⟩, listed⟩
      exact ⟨mem, notMem, fun target refers =>
        listed target refers (graph.target_mem_nodes _ refers)⟩
    · rintro ⟨mem, notMem, listed⟩
      exact ⟨⟨mem, notMem⟩, fun target refers _ => listed target refers⟩
  rw [nextNode?_eq_some_iff, available]
  simp only [← available, and_imp]

/-- The dependency order is the canonical listing. -/
theorem dependencyOrder?_eq_some_iff :
    graph.dependencyOrder? = some listing ↔ graph.IsCanonical listing := by
  rw [dependencyOrder?_eq_listing?, listing?_eq_some_iff graph.nodup_nodes]
  simp only [nextNode?_filter_eq_some_iff]
  constructor
  · rintro ⟨perm, turns⟩
    exact ⟨perm, fun front node back split => (turns front node back split).1,
      fun front node back split => (turns front node back split).2⟩
  · intro canonical
    exact ⟨canonical.perm, fun front node back split =>
      ⟨canonical.available front node back split, canonical.least front node back split⟩⟩

/-- There is no dependency order exactly if some node refers to itself, perhaps through others. -/
theorem dependencyOrder?_eq_none_iff :
    graph.dependencyOrder? = none ↔ ∃ node, Relation.TransGen graph.RefersTo node node := by
  rw [← Option.not_isSome_iff_eq_none, isSome_dependencyOrder?_iff]
  simp [IsAcyclic]

namespace IsCanonical

variable (canonical : graph.IsCanonical listing)

include canonical

theorem count_eq_one (mem : node ∈ graph.nodes) : listing.count node = 1 :=
  List.count_eq_one_of_mem (canonical.perm.nodup_iff.mpr graph.nodup_nodes)
    (canonical.perm.mem_iff.mpr mem)

theorem precedes {source target : Identifier} (refers : graph.RefersTo source target) :
    Precedes listing target source :=
  precedes_of_transGen (dependencyOrder?_eq_some_iff.mpr canonical) (.single refers)

end IsCanonical

end ReferenceGraph

namespace Registration

/--
The order of declaration is the canonical listing. It is refused exactly if the graph has a circle;
otherwise every node is listed once, after everything that it refers to, and as the least of the
nodes that are available at its position. Graphs of the same nodes and edges have the same order.
-/
theorem order_isCanonical (graph : ReferenceGraph) :
    ((∃ error, order graph = .error error) ↔
      ∃ node, Relation.TransGen graph.RefersTo node node) ∧
    (∀ error, order graph = .error error → error = .cyclicReferences graph.cycles) ∧
    (∀ listing, order graph = .ok listing ↔ graph.IsCanonical listing) ∧
    (∀ listing, order graph = .ok listing →
      (∀ node ∈ graph.nodes, listing.count node = 1) ∧
        (∀ node ∈ listing, node ∈ graph.nodes) ∧
        ∀ source target, graph.RefersTo source target → Precedes listing target source) ∧
    ∀ other : ReferenceGraph, (∀ node, node ∈ other.nodes ↔ node ∈ graph.nodes) →
      (∀ edge, edge ∈ other.edges ↔ edge ∈ graph.edges) →
        (order other).toOption = (order graph).toOption := by
  have canonical (listing : List Identifier) :
      order graph = .ok listing ↔ graph.IsCanonical listing := by
    rw [order_eq_ok_iff, ReferenceGraph.dependencyOrder?_eq_some_iff]
  refine ⟨?_, ?_, canonical, ?_, ?_⟩
  · simp [order_eq_error_iff, ReferenceGraph.dependencyOrder?_eq_none_iff]
  · intro error refused
    exact (order_eq_error_iff.mp refused).2.symm
  · intro listing ordered
    have isCanonical := (canonical listing).mp ordered
    exact ⟨fun node mem => isCanonical.count_eq_one mem,
      fun node mem => isCanonical.perm.mem_iff.mp mem,
      fun source target refers => isCanonical.precedes refers⟩
  · intro other sameNodes sameEdges
    have toOption (some : ReferenceGraph) : (order some).toOption = some.dependencyOrder? := by
      unfold order
      split <;> simp_all [Except.toOption]
    rw [toOption, toOption]
    exact ReferenceGraph.dependencyOrder?_congr sameEdges sameNodes

end Registration

end EntityCatalog
