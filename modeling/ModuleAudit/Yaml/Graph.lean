import ModuleAudit.Yaml.Kind

/-!
# The nodes of a YAML document

A node of a document can stand in several places, even inside itself. So the nodes have numbers, in
the order in which they start, and a collection holds the numbers of its nodes.
-/

namespace ModuleAudit.Yaml

/-- The number of a node. -/
abbrev NodeId := Nat

/-- What a node holds. -/
inductive Content
  | scalar (text : String)
  | sequence (items : List NodeId)
  | mapping (entries : List (NodeId × NodeId))
  deriving DecidableEq, Repr

/-- A node of a document. -/
structure Node where
  kind : Kind
  content : Content
  deriving DecidableEq, Repr

/-- A node without content. -/
def Node.empty : Node := ⟨.null, .scalar ""⟩

/-- The nodes of a document, by their numbers. -/
structure Graph where
  nodes : Array Node := #[]
  deriving Repr

namespace Graph

/-- How many nodes there are. -/
def size (g : Graph) : Nat := g.nodes.size

/-- The node with a number. -/
def node (g : Graph) (n : NodeId) : Node := (g.nodes[n]?).getD .empty

/-- With a node at the end, whose number is the size of the graph so far. -/
def add (g : Graph) (node : Node) : Graph := ⟨g.nodes.push node⟩

/-- With other content of a node. -/
def setContent (g : Graph) (n : NodeId) (content : Content) : Graph :=
  ⟨g.nodes.modify n fun node => { node with content }⟩

/-- With another kind of a node. -/
def setKind (g : Graph) (n : NodeId) (kind : Kind) : Graph :=
  ⟨g.nodes.modify n fun node => { node with kind }⟩

end Graph

/-- A document: its nodes and the one that holds all others. -/
structure Document where
  graph : Graph
  root : NodeId
  deriving Repr

end ModuleAudit.Yaml
