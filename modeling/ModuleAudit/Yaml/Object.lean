import ModuleAudit.Text.Base64
import ModuleAudit.Text.Lower
import ModuleAudit.Yaml.Document
import ModuleAudit.Yaml.Merge
import ModuleAudit.Yaml.Number
import ModuleAudit.Yaml.Timestamp

/-!
# What is made of YAML nodes

`Document.objects` are what the nodes of a document come to. The value of a scalar is made as soon
as its collection is filled, while a collection has to wait: collections are filled in the order in
which they were met. So of two faults the one that stands less deep wins. In a map the last value of
a key counts, at the place of the first one.
-/

namespace ModuleAudit.Yaml

/-- What is made of a node. A collection holds the numbers of its nodes, so that it can be there
before they are. -/
inductive Object
  | value (v : Value)
  | list (items : List NodeId)
  | map (entries : List (Value × NodeId))
  | set (members : List Value)
  /-- Pairs of nodes in a row. -/
  | pairs (entries : List (NodeId × NodeId))
  deriving Repr

/-! ## Scalars -/

/-- A fault in the making of a value. -/
def ofFault {α : Type} (x : Except Fault α) : Except Failure α := x.mapError .fault

/-- The words for the truth values, in small letters. -/
def boolWords : List (String × Bool) :=
  [("yes", true), ("no", false), ("true", true), ("false", false), ("on", true), ("off", false)]

/-- The truth value of a scalar. -/
def truthValue (s : String) : Except Fault Bool :=
  let word := String.ofList (Text.lower s.toList)
  match boolWords.lookup word with
  | some b => .ok b
  | none => .error (.missingKey word)

/-- The bytes of a scalar. -/
def bytesOf (s : String) : Except Failure (List UInt8) :=
  if s.toList.all (·.toNat < 0x80) then
    match Text.Base64.decode? s.toList with
    | some bytes => .ok bytes
    | none => .error .malformed
  else .error .malformed

/-- The text of a node that is read as a scalar: a map stands for the entry under its default key.
The fuel is more than the number of nodes. -/
def scalarText (g : Graph) : (fuel : Nat) → NodeId → Except Failure String
  | 0, _ => .error (.fault .endless)
  | fuel + 1, n =>
    match (g.node n).content with
    | .scalar text => .ok text
    | .sequence _ => .error .malformed
    | .mapping entries =>
      match entries.find? fun (k, _) => (g.node k).kind == .defaultValue with
      | some (_, v) => scalarText g fuel v
      | none => .error .malformed

/-- The value of a fractional number at a node. What is not a number is one and the same wherever
its word stands, and its node's own where it is spelled in another way. -/
def realValue (n : NodeId) (s : String) : Except Fault Value := do
  match ← fractionalNumber s with
  | .nan => return .nan (if isNanWord s then 0 else n + 1)
  | x => return .real x

/-- The value of a timestamp at a node, which has to be a scalar itself. -/
def timestampValue (content : Content) : Except Fault Value :=
  match content with
  | .scalar s => timestamp s
  | _ => .error (.wrongKind "expected string or bytes-like object, got 'list'")

/-- The value of a node that is read as a scalar. -/
def scalarValue (g : Graph) (n : NodeId) : Except Failure Value := do
  let text := scalarText g (g.size + 1) n
  match (g.node n).kind with
  | .null =>
    let _ ← text
    return .null
  | .bool => return .bool (← ofFault (truthValue (← text)))
  | .int => return .int (← ofFault (wholeNumber (← text)))
  | .real => ofFault (realValue n (← text))
  | .text => return .text (← text)
  | .binary => return .bytes (← bytesOf (← text))
  | .timestamp =>
    let _ ← text
    ofFault (timestampValue (g.node n).content)
  | _ => .error .malformed

/-! ## Objects -/

/-- How far the making of objects has come. -/
structure Making where
  graph : Graph
  /-- Fuel to flatten maps. -/
  fuel : Nat
  /-- The objects by the numbers of their nodes; a collection that waits is empty. -/
  objects : Array (Option Object)
  /-- The collections that wait, the last first. -/
  waiting : List NodeId := []

/-- A computation that makes objects. -/
abbrev Make := StateT Making (Except Failure)

namespace Make

/-- The empty collection of a kind. -/
def emptyOf? : Kind → Option Object
  | .sequence => some (.list [])
  | .mapping => some (.map [])
  | .set => some (.set [])
  | .pairs => some (.pairs [])
  | _ => none

/-- Puts an object in the place of a node. -/
def put (n : NodeId) (object : Object) : Make Unit :=
  modify fun m => { m with objects := m.objects.setIfInBounds n (some object) }

/-- Begins the object of a node, unless that has been done: a scalar is made, a collection has to
wait. -/
def start (n : NodeId) : Make Unit := do
  let m ← get
  if ((m.objects[n]?).join).isSome then return
  match emptyOf? (m.graph.node n).kind with
  | some object =>
    put n object
    modify fun m => { m with waiting := n :: m.waiting }
  | none => put n (.value (← scalarValue m.graph n))

/-- The value of a key. Collections cannot be keys. -/
def key (n : NodeId) : Make Value := do
  start n
  match ((← get).objects[n]?).join with
  | some (.value v) => return v
  | _ => throw .malformed

/-- Flattens a map, and gives its entries. -/
def flatEntries (n : NodeId) : Make (List (NodeId × NodeId)) := do
  let m ← get
  let (graph, fuel) := (m.graph, m.fuel)
  set { m with graph := {} }
  let (entries, graph) ← (Merging.flattened fuel n).run graph
  modify fun m => { m with graph }
  return entries

/-- The entries of a map. -/
def mapEntries (n : NodeId) : Make (List (Value × NodeId)) := do
  (← flatEntries n).foldlM (fun made (k, v) => do
    let key ← key k
    start v
    return Value.setEntry key v made) []

/-- The pair that the one entry of a map makes. -/
def pair (n : NodeId) : Make (NodeId × NodeId) := do
  match ((← get).graph.node n).content with
  | .mapping [(k, v)] =>
    start k
    start v
    return (k, v)
  | _ => throw .malformed

/-- Fills the collection of a node. -/
def fill (n : NodeId) : Make Unit := do
  let node := (← get).graph.node n
  match node.kind, node.content with
  | .sequence, .sequence items =>
    items.forM start
    put n (.list items)
  | .pairs, .sequence items => put n (.pairs (← items.mapM pair))
  | .mapping, .mapping _ => put n (.map (← mapEntries n))
  | .set, .mapping _ => put n (.set ((← mapEntries n).map (·.1)))
  | _, _ => throw .malformed

/-- Takes the collections that wait. -/
def takeWaiting : Make (List NodeId) :=
  modifyGet fun m => (m.waiting.reverse, { m with waiting := [] })

/-- Fills all collections that wait, and those that are met on the way. Each round fills one that
was not filled before. -/
def fillAll : (fuel : Nat) → Make Unit
  | 0 => return ()
  | fuel + 1 => do
    match ← takeWaiting with
    | [] => return ()
    | ns =>
      ns.forM fill
      fillAll fuel

end Make

/-- The objects of a document, by the numbers of their nodes. Nodes that the root does not need have
none. -/
def Document.objects (d : Document) : Except Failure (Array (Option Object)) := do
  let making : Making :=
    { graph := d.graph
      fuel := Merging.fuelFor d.graph
      objects := Array.replicate d.graph.size none }
  let ((), m) ← (do Make.start d.root; Make.fillAll (d.graph.size + 1) : Make Unit).run making
  return m.objects

end ModuleAudit.Yaml
