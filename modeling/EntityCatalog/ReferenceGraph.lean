import EntityCatalog.Identifier

/-!
# Reference graphs

A graph of identifiers with an edge from each referrer to what it refers to. A graph is given by
its nodes and edges in any order and with any repetitions: only the sets matter.
-/

namespace EntityCatalog

/-- Removing repetitions leaves every member once. -/
theorem nodup_eraseDups {α : Type} [DecidableEq α] (items : List α) : items.eraseDups.Nodup := by
  match items with
  | [] => simp
  | item :: rest =>
    rw [List.eraseDups_cons, List.nodup_cons]
    refine ⟨?_, nodup_eraseDups _⟩
    simp [List.mem_eraseDups]
termination_by items.length
decreasing_by
  have shorter := List.length_filter_le (fun other => !other == item) rest
  simp only [List.length_cons]
  omega

/-- Identifiers with edges from referrers to what they refer to. -/
structure ReferenceGraph where
  nodes : List Identifier
  edges : List (Identifier × Identifier)
  nodup_nodes : nodes.Nodup
  source_mem_nodes : ∀ edge ∈ edges, edge.1 ∈ nodes
  target_mem_nodes : ∀ edge ∈ edges, edge.2 ∈ nodes
deriving DecidableEq

namespace ReferenceGraph

/-- The two ends of an edge. -/
def ends (edge : Identifier × Identifier) : List Identifier := [edge.1, edge.2]

/-- The graph of some nodes and edges; the ends of an edge are nodes even if not listed. -/
def ofParts (nodes : List Identifier) (edges : List (Identifier × Identifier)) :
    ReferenceGraph where
  nodes := (nodes ++ edges.flatMap ends).eraseDups
  edges := edges.eraseDups
  nodup_nodes := nodup_eraseDups _
  source_mem_nodes edge mem := by
    rw [List.mem_eraseDups] at mem ⊢
    exact List.mem_append_right _ (List.mem_flatMap.2 ⟨edge, mem, by simp [ends]⟩)
  target_mem_nodes edge mem := by
    rw [List.mem_eraseDups] at mem ⊢
    exact List.mem_append_right _ (List.mem_flatMap.2 ⟨edge, mem, by simp [ends]⟩)

/-- What a node refers to. -/
def targets (graph : ReferenceGraph) (node : Identifier) : List Identifier :=
  (graph.edges.filter fun edge => edge.1 == node).map Prod.snd

theorem mem_targets_iff {graph : ReferenceGraph} {source target : Identifier} :
    target ∈ graph.targets source ↔ (source, target) ∈ graph.edges := by
  simp [targets]

theorem mem_edges_ofParts_iff {nodes : List Identifier}
    {edges : List (Identifier × Identifier)} {edge : Identifier × Identifier} :
    edge ∈ (ofParts nodes edges).edges ↔ edge ∈ edges := by
  simp [ofParts, List.mem_eraseDups]

theorem mem_nodes_ofParts_iff {nodes : List Identifier}
    {edges : List (Identifier × Identifier)} {node : Identifier} :
    node ∈ (ofParts nodes edges).nodes ↔
      node ∈ nodes ∨ ∃ edge ∈ edges, node = edge.1 ∨ node = edge.2 := by
  simp [ofParts, List.mem_eraseDups, ends]

end ReferenceGraph

end EntityCatalog
