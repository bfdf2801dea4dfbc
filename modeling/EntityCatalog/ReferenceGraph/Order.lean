import EntityCatalog.ReferenceGraph

/-!
# Dependency order

The nodes of a graph are listed one by one, each of them after the nodes that it refers to. An
agenda keeps every unlisted node with the number of unlisted nodes that it refers to. A node is
ready once this number is zero; the least of the ready nodes is listed next, and then every node
that refers to it waits for one node less. The listing ends when no node is ready. It is complete
unless nodes are left that wait for each other, which is so exactly if the graph has a circle.
`listing?` says without any numbers what is listed: each time the least of the nodes that refer to
no unlisted node.
-/

namespace EntityCatalog.ReferenceGraph

/-- What refers to a node. -/
def sources (graph : ReferenceGraph) (node : Identifier) : List Identifier :=
  (graph.edges.filter fun edge => edge.2 == node).map Prod.fst

theorem mem_sources_iff {graph : ReferenceGraph} {source target : Identifier} :
    source ∈ graph.sources target ↔ (source, target) ∈ graph.edges := by
  simp [sources]

/-- An unlisted node, and how many of the nodes that it refers to are unlisted. -/
structure WaitingNode where
  node : Identifier
  count : Nat
deriving DecidableEq

/-- A node that waits for one node less if it is among those that refer to a listed one. -/
def WaitingNode.release (referrers : List Identifier) (waiting : WaitingNode) : WaitingNode :=
  if waiting.node ∈ referrers then ⟨waiting.node, waiting.count - 1⟩ else waiting

/-- What is left to list: the nodes that are ready, and those that wait for others. -/
structure Agenda where
  ready : List Identifier
  waiting : List WaitingNode
deriving DecidableEq

namespace Agenda

/-- Nodes that are ready, together with those of some others that wait for nothing any more. -/
def sort (ready : List Identifier) (others : List WaitingNode) : Agenda where
  ready := ready ++ (others.filter fun waiting => waiting.count == 0).map WaitingNode.node
  waiting := others.filter fun waiting => waiting.count != 0

/-- The agenda of all nodes of a graph. -/
def ofGraph (graph : ReferenceGraph) : Agenda :=
  sort [] (graph.nodes.map fun node => ⟨node, (graph.targets node).eraseDups.length⟩)

/-- The agenda once a ready node is listed. -/
def settle (graph : ReferenceGraph) (listed : Identifier) (agenda : Agenda) : Agenda :=
  sort (agenda.ready.erase listed)
    (agenda.waiting.map (WaitingNode.release (graph.sources listed)))

/-- How many nodes are left. -/
def size (agenda : Agenda) : Nat := agenda.ready.length + agenda.waiting.length

/-- Sorting loses no node. -/
theorem size_sort (ready : List Identifier) (others : List WaitingNode) :
    (sort ready others).size = ready.length + others.length := by
  induction others with
  | nil => simp [sort, size]
  | cons waiting rest ih =>
    simp only [sort, size, List.length_append, List.length_map] at ih ⊢
    by_cases free : waiting.count = 0
    · simp only [free, List.filter_cons, beq_self_eq_true, bne_self_eq_false, if_true,
        Bool.false_eq_true, if_false, List.length_cons]
      omega
    · simp only [free, List.filter_cons, beq_iff_eq, bne_iff_ne, ne_eq, if_false, not_false_eq_true,
        if_true, List.length_cons]
      omega

/-- One node less is left once a ready node is listed. -/
theorem size_settle_lt {graph : ReferenceGraph} {agenda : Agenda} {listed : Identifier}
    (next : agenda.ready.min? = some listed) : (agenda.settle graph listed).size < agenda.size := by
  have mem := List.min?_mem next
  have positive := List.length_pos_of_mem mem
  rw [settle, size_sort, size, List.length_map, List.length_erase_of_mem mem]
  omega

/-- The nodes of an agenda in dependency order, as far as they can be listed. -/
def listing (graph : ReferenceGraph) (agenda : Agenda) : List Identifier :=
  match _next : agenda.ready.min? with
  | none => []
  | some listed => listed :: listing graph (agenda.settle graph listed)
termination_by agenda.size
decreasing_by exact size_settle_lt _next

end Agenda

/-- All nodes in dependency order, unless the graph has a circle. -/
def dependencyOrder? (graph : ReferenceGraph) : Option (List Identifier) :=
  let listing := (Agenda.ofGraph graph).listing graph
  if listing.length = graph.nodes.length then some listing else none

/-- Whether a node refers to none of the unlisted nodes. -/
def isReady (graph : ReferenceGraph) (unlisted : List Identifier) (node : Identifier) : Bool :=
  (graph.targets node).all fun target => target ∉ unlisted

/-- The least of the nodes that refer to no unlisted node. -/
def nextNode? (graph : ReferenceGraph) (unlisted : List Identifier) : Option Identifier :=
  (unlisted.filter (graph.isReady unlisted)).min?

/-- The next node is one of the unlisted ones. -/
theorem mem_of_nextNode?_eq_some {graph : ReferenceGraph} {unlisted : List Identifier}
    {node : Identifier} (next : graph.nextNode? unlisted = some node) : node ∈ unlisted :=
  (List.mem_filter.1 (List.min?_mem next)).1

/-- The unlisted nodes in dependency order, if they can all be listed. -/
def listing? (graph : ReferenceGraph) (unlisted : List Identifier) : Option (List Identifier) :=
  match _next : graph.nextNode? unlisted with
  | none => if unlisted = [] then some [] else none
  | some node => (graph.listing? (unlisted.erase node)).map (node :: ·)
termination_by unlisted.length
decreasing_by
  have mem := mem_of_nextNode?_eq_some _next
  have positive := List.length_pos_of_mem mem
  rw [List.length_erase_of_mem mem]
  omega

theorem listing?_of_nextNode?_eq_none {graph : ReferenceGraph} {unlisted : List Identifier}
    (next : graph.nextNode? unlisted = none) :
    graph.listing? unlisted = if unlisted = [] then some [] else none := by
  rw [listing?]
  split <;> simp_all

theorem listing?_of_nextNode?_eq_some {graph : ReferenceGraph} {unlisted : List Identifier}
    {node : Identifier} (next : graph.nextNode? unlisted = some node) :
    graph.listing? unlisted = (graph.listing? (unlisted.erase node)).map (node :: ·) := by
  rw [listing?]
  split <;> simp_all

end EntityCatalog.ReferenceGraph
