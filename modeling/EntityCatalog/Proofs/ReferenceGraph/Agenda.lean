import Mathlib.Data.List.Perm.Basic
import EntityCatalog.ReferenceGraph.Order

/-!
# What an agenda keeps

The nodes of an agenda are those that are not listed yet. The ready ones refer to none of these, and
each of the others is kept with the number of those that it refers to, so it refers to one at least.
Listing a ready node keeps this: the number goes down exactly for the nodes that refer to it. So the
agenda lists the same as the search for the least node that refers to no unlisted one, and its
listing is as long as there are nodes exactly if that search lists all of them.
-/

namespace EntityCatalog.ReferenceGraph

variable {graph : ReferenceGraph} {unlisted : List Identifier} {node listed : Identifier}

/-- The unlisted nodes that a node refers to, each of them once. -/
def openTargets (graph : ReferenceGraph) (unlisted : List Identifier) (node : Identifier) :
    List Identifier :=
  (graph.targets node).eraseDups.filter fun target => target ∈ unlisted

theorem mem_openTargets_iff {target : Identifier} :
    target ∈ graph.openTargets unlisted node ↔
      target ∈ graph.targets node ∧ target ∈ unlisted := by
  simp [openTargets, List.mem_eraseDups]

theorem nodup_openTargets : (graph.openTargets unlisted node).Nodup :=
  (nodup_eraseDups _).filter _

theorem isReady_iff_openTargets_eq_nil :
    graph.isReady unlisted node = true ↔ graph.openTargets unlisted node = [] := by
  simp only [isReady, List.all_eq_true, decide_eq_true_eq, List.eq_nil_iff_forall_not_mem,
    mem_openTargets_iff, not_and]

/-- All nodes that a node refers to are open as long as nothing is listed. -/
theorem openTargets_nodes (graph : ReferenceGraph) (node : Identifier) :
    graph.openTargets graph.nodes node = (graph.targets node).eraseDups := by
  apply List.filter_eq_self.mpr
  intro target mem
  rw [List.mem_eraseDups, mem_targets_iff] at mem
  simpa using graph.target_mem_nodes _ mem

/-- Listing a node takes it from what the others refer to. -/
theorem openTargets_erase (nodup : unlisted.Nodup) (listed node : Identifier) :
    graph.openTargets (unlisted.erase listed) node =
      (graph.openTargets unlisted node).erase listed := by
  rw [nodup_openTargets.erase_eq_filter, openTargets, openTargets, List.filter_filter]
  apply List.filter_congr
  intro target _
  rw [Bool.eq_iff_iff]
  simp [nodup.mem_erase_iff]

/-- One of the open nodes less is left for each node that refers to the listed one. -/
theorem length_openTargets_erase (nodup : unlisted.Nodup) (mem : listed ∈ unlisted)
    (node : Identifier) :
    (graph.openTargets (unlisted.erase listed) node).length =
      if node ∈ graph.sources listed then (graph.openTargets unlisted node).length - 1
      else (graph.openTargets unlisted node).length := by
  have refers : listed ∈ graph.openTargets unlisted node ↔ node ∈ graph.sources listed := by
    simp [mem_openTargets_iff, mem_targets_iff, mem_sources_iff, mem]
  rw [openTargets_erase nodup, List.length_erase]
  simp only [refers]

namespace Agenda

/-- Whether an agenda keeps the unlisted nodes with what they wait for. -/
structure Tracks (graph : ReferenceGraph) (unlisted : List Identifier) (agenda : Agenda) :
    Prop where
  perm : (agenda.ready ++ agenda.waiting.map WaitingNode.node).Perm unlisted
  ready_eq_nil : ∀ node ∈ agenda.ready, graph.openTargets unlisted node = []
  count_eq : ∀ waiting ∈ agenda.waiting,
    waiting.count = (graph.openTargets unlisted waiting.node).length
  count_ne_zero : ∀ waiting ∈ agenda.waiting, waiting.count ≠ 0

theorem tracks_sort {ready : List Identifier} {others : List WaitingNode}
    (perm : (ready ++ others.map WaitingNode.node).Perm unlisted)
    (free : ∀ node ∈ ready, graph.openTargets unlisted node = [])
    (counted : ∀ waiting ∈ others,
      waiting.count = (graph.openTargets unlisted waiting.node).length) :
    (sort ready others).Tracks graph unlisted where
  perm := by
    have parts := List.filter_append_perm (fun waiting : WaitingNode => waiting.count == 0) others
    have sorted := (parts.map WaitingNode.node).append_left ready
    rw [List.map_append, ← List.append_assoc] at sorted
    exact sorted.trans perm
  ready_eq_nil node mem := by
    rcases List.mem_append.mp mem with readyMem | otherMem
    · exact free node readyMem
    · rcases List.mem_map.mp otherMem with ⟨waiting, waitingMem, rfl⟩
      rcases List.mem_filter.mp waitingMem with ⟨waitingMem, zero⟩
      apply List.eq_nil_of_length_eq_zero
      rw [← counted waiting waitingMem]
      simpa using zero
  count_eq waiting mem := counted waiting (List.mem_filter.mp mem).1
  count_ne_zero waiting mem := by simpa using (List.mem_filter.mp mem).2

theorem tracks_ofGraph (graph : ReferenceGraph) : (ofGraph graph).Tracks graph graph.nodes := by
  apply tracks_sort
  · simp [Function.comp_def]
  · simp
  · intro waiting mem
    rcases List.mem_map.mp mem with ⟨node, _, rfl⟩
    rw [openTargets_nodes]

namespace Tracks

variable {agenda : Agenda} (tracks : agenda.Tracks graph unlisted)

include tracks

theorem mem_unlisted_of_ready (mem : node ∈ agenda.ready) : node ∈ unlisted :=
  tracks.perm.mem_iff.mp (List.mem_append_left _ mem)

theorem settle (nodup : unlisted.Nodup) (mem : listed ∈ agenda.ready) :
    (agenda.settle graph listed).Tracks graph (unlisted.erase listed) := by
  have unlistedMem := tracks.mem_unlisted_of_ready mem
  have sameNodes : (agenda.waiting.map (WaitingNode.release (graph.sources listed))).map
      WaitingNode.node = agenda.waiting.map WaitingNode.node := by
    rw [List.map_map]
    apply List.map_congr_left
    intro waiting _
    simp only [Function.comp_apply, WaitingNode.release]
    split <;> rfl
  apply tracks_sort
  · rw [sameNodes, ← List.erase_append_left _ mem]
    exact tracks.perm.erase listed
  · intro node nodeMem
    rw [openTargets_erase nodup, tracks.ready_eq_nil node (List.mem_of_mem_erase nodeMem)]
    rfl
  · intro released releasedMem
    rcases List.mem_map.mp releasedMem with ⟨waiting, waitingMem, rfl⟩
    have counted := tracks.count_eq waiting waitingMem
    unfold WaitingNode.release
    split
    · next refers => rw [length_openTargets_erase nodup unlistedMem, if_pos refers, counted]
    · next refers => rw [length_openTargets_erase nodup unlistedMem, if_neg refers, counted]

/-- The ready nodes are those that refer to no unlisted node. -/
theorem mem_ready_iff :
    node ∈ agenda.ready ↔ node ∈ unlisted ∧ graph.isReady unlisted node = true := by
  rw [isReady_iff_openTargets_eq_nil]
  constructor
  · intro mem
    exact ⟨tracks.mem_unlisted_of_ready mem, tracks.ready_eq_nil node mem⟩
  · rintro ⟨mem, free⟩
    rcases List.mem_append.mp (tracks.perm.mem_iff.mpr mem) with ready | waits
    · exact ready
    · rcases List.mem_map.mp waits with ⟨waiting, waitingMem, rfl⟩
      have counted := tracks.count_eq waiting waitingMem
      rw [free, List.length_nil] at counted
      exact absurd counted (tracks.count_ne_zero waiting waitingMem)

theorem min?_ready : agenda.ready.min? = graph.nextNode? unlisted := by
  apply Option.ext
  intro least
  simp only [nextNode?, List.min?_eq_some_iff, List.mem_filter, tracks.mem_ready_iff]

end Tracks

/--
An agenda lists what the search for the next node lists, if that lists all nodes. The induction is
on the listing of the agenda; each step keeps the agenda in step with the unlisted nodes.
-/
theorem Tracks.listing?_eq {agenda : Agenda} (tracks : agenda.Tracks graph unlisted)
    (nodup : unlisted.Nodup) :
    graph.listing? unlisted =
      if (agenda.listing graph).length = unlisted.length then some (agenda.listing graph)
      else none := by
  fun_induction agenda.listing graph generalizing unlisted with
  | case1 agenda none =>
      rw [listing?_of_nextNode?_eq_none (tracks.min?_ready ▸ none)]
      have empty : unlisted = [] ↔ ([] : List Identifier).length = unlisted.length :=
        List.length_eq_zero_iff.symm.trans eq_comm
      simp only [empty]
  | case2 agenda listed next ih =>
      have ready := List.min?_mem next
      have mem := tracks.mem_unlisted_of_ready ready
      have positive := List.length_pos_of_mem mem
      rw [listing?_of_nextNode?_eq_some (tracks.min?_ready ▸ next),
        ih (tracks.settle nodup ready) (nodup.erase listed), List.length_erase_of_mem mem,
        List.length_cons]
      have sameLength : ((agenda.settle graph listed).listing graph).length =
            unlisted.length - 1 ↔
          ((agenda.settle graph listed).listing graph).length + 1 = unlisted.length := by
        omega
      simp only [sameLength]
      split <;> rfl

end Agenda

/-- The dependency order is the listing of all nodes. -/
theorem dependencyOrder?_eq_listing? (graph : ReferenceGraph) :
    graph.dependencyOrder? = graph.listing? graph.nodes :=
  ((Agenda.tracks_ofGraph graph).listing?_eq graph.nodup_nodes).symm

end EntityCatalog.ReferenceGraph
