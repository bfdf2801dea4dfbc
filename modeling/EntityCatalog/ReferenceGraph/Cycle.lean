import EntityCatalog.ReferenceGraph
import EntityCatalog.Text.Order

/-!
# Circles of references

A circle is a closed walk that visits no node twice, written by the nodes it visits from any of
them on. Its canonical form starts at its least node, by written form; the circles of a graph are
listed in canonical form and in increasing order.
-/

namespace EntityCatalog

/-- The nodes of a circle, by their written forms, in the order in which they are visited. -/
structure Cycle where
  first : String
  others : List String
deriving DecidableEq, Repr

namespace Cycle

/-- The visited nodes. -/
def nodes (cycle : Cycle) : List String := cycle.first :: cycle.others

/-- The circle that visits some nodes, unless there are none. -/
def ofNodes? : List String → Option Cycle
  | [] => none
  | first :: others => some ⟨first, others⟩

/-- The nodes and the first one again, joined by arrows. -/
def text (cycle : Cycle) : String := " -> ".intercalate (cycle.nodes ++ [cycle.first])

/-- The same circle, started at its least node. -/
def canonical (cycle : Cycle) : Cycle :=
  let lesser (least node : String) : String := if node < least then node else least
  let least := cycle.others.foldl lesser cycle.first
  let before := cycle.nodes.takeWhile (· != least)
  let after := cycle.nodes.dropWhile (· != least)
  match after ++ before with
  | [] => cycle
  | first :: others => ⟨first, others⟩

/-- Circles in increasing order, node by node. -/
def sorted (cycles : List Cycle) : List Cycle :=
  cycles.mergeSort fun left right => !right.nodes.lex left.nodes

end Cycle

namespace ReferenceGraph

/--
Of some nodes, those from which one can walk to a node of the frontier through them. Each unit of
fuel takes one node from the frontier, together with the nodes before it.
-/
def reaching (edges : List (String × String)) :
    Nat → (frontier unreached : List String) → List String
  | 0, _, _ => []
  | _, [], _ => []
  | fuel + 1, node :: frontier, unreached =>
      let sources := (edges.filter fun edge => edge.2 == node).map Prod.fst
      let (found, others) := unreached.partition sources.contains
      found ++ reaching edges fuel (found ++ frontier) others

/--
The circles that extend a walk from `start` to `current` through unvisited nodes; the walk is given
in reverse. Where it can go on to several nodes, only those are tried from which one can still walk
back to the start, so that every branch ends in a circle. One unit of fuel is used for each further
node.
-/
def cyclesThrough (edges : List (String × String)) (start : String) :
    Nat → (unvisited walk : List String) → String → List Cycle
  | 0, _, _, _ => []
  | fuel + 1, unvisited, walk, current =>
      let goOn (available : List String) (next : String) : List Cycle :=
        if next = start then (Cycle.ofNodes? (current :: walk).reverse).toList
        else if next ∈ available then
          cyclesThrough edges start fuel (available.erase next) (current :: walk) next
        else []
      let successors := (edges.filter fun edge => edge.1 == current).map Prod.snd
      match successors.filter fun next => next = start ∨ next ∈ unvisited with
      | [] => []
      | [next] => goOn unvisited next
      | several =>
          several.flatMap (goOn (reaching edges (unvisited.length + 1) [start] unvisited))

/-- The circles whose least node is the first of some nodes in increasing order. -/
def cyclesFromLeast (edges : List (String × String)) : List String → List Cycle
  | [] => []
  | start :: greater =>
      let others := cyclesFromLeast edges greater
      if edges.any fun edge => edge.1 == start && (start :: greater).contains edge.2 then
        let fuel := greater.length + 1
        cyclesThrough edges start fuel (reaching edges fuel [start] greater) [] start ++ others
      else others

/-- All circles of a graph, in canonical form and increasing order. -/
def cycles (graph : ReferenceGraph) : List Cycle :=
  let nodes := Text.sorted (graph.nodes.map Identifier.text)
  let edges := graph.edges.map fun edge => (edge.1.text, edge.2.text)
  Cycle.sorted (cyclesFromLeast edges nodes)

end ReferenceGraph

end EntityCatalog
