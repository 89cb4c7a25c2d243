import ModuleAudit.Yaml.Object

/-!
# The values of YAML documents

`Yaml.read` is the value of the one document of a text. A node that stands in several places is the
same value in all of them. A node that stands in itself has no end: it is unfolded up to the place
where it starts again, on each way from where a reader begins. A reader first takes some levels of
collections apart, and begins anew with each value that it finds below them.
-/

namespace ModuleAudit.Yaml

/-- The objects of the nodes of a document, by number. -/
abbrev Objects := Array (Option Object)

/-- The nodes that an object holds. -/
def Object.nodes : Object → List NodeId
  | value _ => []
  | list items => items
  | map entries => entries.map (·.2)
  | set _ => []
  | pairs entries => entries.flatMap fun (k, v) => [k, v]

/-- Whether an object is a map. -/
def Object.isMap : Object → Bool
  | map _ => true
  | _ => false

/-- Whether a node stands somewhere in the nodes `todo`, apart from those that were looked at. -/
def reaches (objects : Objects) (target : NodeId) :
    (fuel : Nat) → (seen : Array Bool) → (todo : List NodeId) → Bool
  | 0, _, _ => false
  | _, _, [] => false
  | fuel + 1, seen, n :: todo =>
    if n == target then true
    else if seen[n]?.getD true then reaches objects target fuel seen todo
    else
      let inner := (((objects[n]?).join).map (·.nodes)).getD []
      reaches objects target fuel (seen.setIfInBounds n true) (inner ++ todo)

/-- How many nodes the objects hold, each time anew. -/
def occurrences (objects : Objects) : Nat :=
  objects.foldl (fun count object => count + ((object.map (·.nodes.length)).getD 0)) 0

/-- Whether one node stands somewhere in another one. -/
def standsIn (objects : Objects) (inner outer : NodeId) : Bool :=
  reaches objects inner (occurrences objects + 2) (Array.replicate objects.size false) [outer]

/-- An unfolded node. -/
structure Unfolded where
  value : Value
  /-- The outermost place on the way to the node at which it starts again; beyond the way if there
  is none. -/
  outermost : Nat
  /-- Whether no node in it starts again. -/
  ends : Bool

/-- How far the unfolding of nodes has come. -/
structure Unfolding where
  objects : Objects
  /-- The unfolded nodes that start again at no node around them, by level and number. -/
  known : Array (Option Unfolded)

/-- A computation that unfolds nodes. -/
abbrev Unfold := StateM Unfolding

namespace Unfolded

/-- A value without an end of its own on a way of some length. -/
def whole (value : Value) (length : Nat) : Unfolded := ⟨value, length, true⟩

/-- A collection of unfolded nodes on a way of some length. -/
def collect (value : Value) (length : Nat) (parts : List Unfolded) : Unfolded :=
  ⟨value, (parts.map (·.outermost)).foldl min length, parts.all (·.ends)⟩

end Unfolded

namespace Unfold

/-- A node that is unfolded already, if that holds also on this way: either it has an end, or the
node around it does not stand in it, so that none of the nodes on the way does. -/
def known? (u : Unfolding) (way : List NodeId) (place n : NodeId) : Option Unfolded :=
  match (u.known[place]?).join with
  | none => none
  | some known =>
    if known.ends || way.head?.all (!standsIn u.objects · n) then
      some { known with outermost := way.length }
    else none

/-- Unfolds a node below some levels. The way to the node lists the nodes around it, the innermost
first. -/
def node : (fuel level : Nat) → (way : List NodeId) → NodeId → Unfold Unfolded
  | 0, _, way, _ => return .whole .null way.length
  | fuel + 1, level, way, n => do
    let u ← get
    let place := level * u.objects.size + n
    match known? u way place n, (u.objects[n]?).join with
    | some known, _ => return known
    | none, none => return .whole .null way.length
    | none, some object =>
      match way.findIdx? (· == n) with
      | some i => return ⟨.again object.isMap, way.length - 1 - i, false⟩
      | none =>
        let unfold := node fuel (level - 1) (if level == 0 then n :: way else [])
        let unfolded ← match object with
          | .value v => pure (.whole v way.length)
          | .set members => pure (.whole (.set members) way.length)
          | .list items => do
            let parts ← items.mapM unfold
            pure (.collect (.list (parts.map (·.value))) way.length parts)
          | .map entries => do
            let parts ← entries.mapM fun (_, v) => unfold v
            let values := (entries.map (·.1)).zip (parts.map (·.value))
            pure (.collect (.map values) way.length parts)
          | .pairs entries => do
            let keys ← entries.mapM fun (k, _) => unfold k
            let parts ← entries.mapM fun (_, v) => unfold v
            let values := keys.zipWith (fun k v => Value.tuple [k.value, v.value]) parts
            pure (.collect (.list values) way.length (keys ++ parts))
        if way.length ≤ unfolded.outermost then
          modify fun u => { u with known := u.known.setIfInBounds place (some unfolded) }
        return unfolded

end Unfold

/-- The value of a document below some levels. -/
def Document.value (levels : Nat) (d : Document) : Except Failure Value := do
  let objects ← d.objects
  let start : Unfolding := ⟨objects, Array.replicate ((levels + 1) * objects.size) none⟩
  return ((Unfold.node (levels + objects.size + 1) levels [] d.root).run start).1.value

/-- The value of the one document of a text, for a reader who takes some levels of collections
apart. A text without a document has the value nothing. -/
def read (levels : Nat) (s : List Char) : Except Failure Value := do
  match ← Document.ofText? s with
  | none => return .null
  | some d => d.value levels

end ModuleAudit.Yaml
