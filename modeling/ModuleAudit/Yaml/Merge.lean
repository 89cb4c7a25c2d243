import ModuleAudit.Yaml.Graph
import ModuleAudit.Yaml.Spot

/-!
# Maps that take over entries from other maps

Under the merge key a map names one or several maps whose entries it takes over. `Merging.flatten`
replaces such an entry by the entries that it stands for, in front of the map's own ones. The maps
that are named are flattened before, and since each step removes a merge entry for good, this ends
even if a map names itself.
-/

namespace ModuleAudit.Yaml

/-- A computation that changes the maps of a graph. -/
abbrev Merging := StateT Graph (Except Failure)

namespace Merging

/-- The entries of a map. -/
def entries (n : NodeId) : Merging (List (NodeId × NodeId)) := do
  match ((← get).node n).content with
  | .mapping entries => return entries
  | _ => throw .malformed

/-- Whether the node with a number is of a kind. -/
def isOf (g : Graph) (kind : Kind) (n : NodeId) : Bool := (g.node n).kind == kind

/-- Makes texts of those keys that name the default entry. -/
def settleKeys (entries : List (NodeId × NodeId)) : Merging Unit :=
  modify fun g =>
    entries.foldl (fun g (k, _) => if isOf g .defaultValue k then g.setKind k .text else g) g

/-- Removes the first merge entry of a map, and gives the node under it. The keys in front of it are
settled. -/
def takeMerge (n : NodeId) : Merging (Option NodeId) := do
  let all ← entries n
  let g ← get
  let front := all.takeWhile fun (k, _) => !isOf g .merge k
  settleKeys front
  match all.drop front.length with
  | [] => return none
  | (_, v) :: rest =>
    modify (·.setContent n (.mapping (front ++ rest)))
    return some v

mutual

/-- Replaces the merge entries of a map. Three steps of fuel are needed for each of the merge
entries, and three in the end. -/
def flatten : (fuel : Nat) → NodeId → Merging Unit
  | 0, _ => return ()
  | fuel + 1, n => do
    let taken ← takenOver fuel n
    if !taken.isEmpty then
      let own ← entries n
      modify (·.setContent n (.mapping (taken ++ own)))

/-- Removes the merge entries of a map, and gives the entries that they stand for. -/
def takenOver : (fuel : Nat) → NodeId → Merging (List (NodeId × NodeId))
  | 0, _ => return []
  | fuel + 1, n => do
    match ← takeMerge n with
    | none => return []
    | some v =>
      let first ← match ((← get).node v).content with
        | .mapping _ => flattened fuel v
        | .sequence items => pure (← items.mapM (flattened fuel)).reverse.flatten
        | .scalar _ => throw .malformed
      return first ++ (← takenOver fuel n)

/-- The entries of a map after its merge entries have been replaced. -/
def flattened : (fuel : Nat) → NodeId → Merging (List (NodeId × NodeId))
  | 0, n => entries n
  | fuel + 1, n => do
    flatten fuel n
    entries n

end

/-- The number of merge entries in the maps of a graph. -/
def mergeCount (g : Graph) : Nat :=
  g.nodes.foldl (fun count node =>
    match node.content with
    | .mapping entries => count + entries.countP fun (k, _) => isOf g .merge k
    | _ => count) 0

/-- Fuel to flatten any map of a graph. -/
def fuelFor (g : Graph) : Nat := 3 * mergeCount g + 3

end Merging

end ModuleAudit.Yaml
