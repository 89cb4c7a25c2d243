import ModuleAudit.Yaml.Graph
import ModuleAudit.Yaml.Token

/-!
# Reading YAML documents

`Document.ofText?` reads the one document of a text as a graph of nodes, each with the kind that its
tag or its form tells. A node may have a name, under which it can stand in further places from its
start on.
-/

namespace ModuleAudit.Yaml

/-! ## Reading tokens -/

/-- How far the reading of nodes has come. -/
structure Reading where
  tokens : List Token
  /-- What comes after the last token, if it is not the end of the text. -/
  failure : Option Failure
  graph : Graph := {}
  /-- The nodes that have names. -/
  named : List (String × NodeId) := []
  /-- The starts of tags that have short names. -/
  handles : List (String × String) := []

/-- A computation that reads nodes. -/
abbrev Read := StateT Reading (Except Failure)

namespace Read

/-- Ends the reading. -/
def fail {α : Type} (f : Failure) : Read α := throw f

/-- The next token; nothing at the end of the text. -/
def peek : Read (Option Token) := do
  let r ← get
  match r.tokens, r.failure with
  | t :: _, _ => return some t
  | [], none => return none
  | [], some f => fail f

/-- Passes over the next token. -/
def skip : Read Unit := modify fun r => { r with tokens := r.tokens.drop 1 }

/-- Whether the next token is one of some. -/
def nextIs (ts : List Token) : Read Bool := do
  match ← peek with
  | some t => return ts.contains t
  | none => return false

/-- Passes over the next token, which has to be `t`. -/
def expect (t : Token) : Read Unit := do
  if ← nextIs [t] then skip else fail .malformed

/-- The node with a name. -/
def lookUp (name : String) : Read NodeId := do
  match (← get).named.lookup name with
  | some n => return n
  | none => fail .malformed

/-- Adds a node to the graph. -/
def add (node : Node) : Read NodeId :=
  modifyGet fun r => (r.graph.size, { r with graph := r.graph.add node })

/-- Adds a node, which may have a name, to the graph. No two nodes have the same name. -/
def addNamed (name : Option String) (node : Node) : Read NodeId := do
  match name with
  | none => add node
  | some name =>
    if ((← get).named.lookup name).isSome then fail .malformed
    else
      let n ← add node
      modify fun r => { r with named := (name, n) :: r.named }
      return n

/-- Gives a node its content. -/
def fill (n : NodeId) (content : Content) : Read NodeId := do
  modify fun r => { r with graph := r.graph.setContent n content }
  return n

/-- A tag in full. -/
def fullTag (t : WrittenTag) : Read String := do
  match t.handle with
  | none => return t.suffix
  | some handle =>
    match (← get).handles.lookup handle with
    | some start => return start ++ t.suffix
    | none => fail .malformed

/-! ## Nodes -/

/-- What stands beside the content of a node. -/
structure Properties where
  name : Option String := none
  /-- The tag in full. -/
  tag : Option String := none

/-- The name, if it comes next. -/
def anchor? : Read (Option String) := do
  match ← peek with
  | some (.anchor name) => skip; return some name
  | _ => return none

/-- The tag, if it comes next. -/
def tag? : Read (Option WrittenTag) := do
  match ← peek with
  | some (.tag t) => skip; return some t
  | _ => return none

/-- What stands beside the content of a node: a name and a tag, in either order. -/
def properties : Read Properties := do
  let first ← anchor?
  let tag ← tag?
  let name ← if first.isNone && tag.isSome then anchor? else pure first
  match tag with
  | none => return { name }
  | some t => return { name, tag := some (← fullTag t) }

/-- Whether a tag leaves the kind to the form of the node. -/
def isOpen (tag : Option String) : Bool := tag.all (· == "!")

/-- The kind of a scalar. -/
def scalarKind (tag : Option String) (isPlain : Bool) (content : String) : Kind :=
  if (isPlain && tag.isNone) || tag == some "!" then .ofPlain content.toList
  else (tag.map Kind.ofTag).getD .text

/-- The kind of a collection, which is `plain` unless a tag tells another one. -/
def collectionKind (tag : Option String) (plain : Kind) : Kind :=
  if isOpen tag then plain else (tag.map Kind.ofTag).getD plain

mutual

/-- The next node. Collections that indentation delimits may stand only where `block` says; `dashes`
allows entries after dashes without indentation of their own. -/
def node (block dashes : Bool) : (fuel : Nat) → Read NodeId
  | 0 => fail .malformed
  | fuel + 1 => do
    match ← peek with
    | some (.aliasOf name) => skip; lookUp name
    | _ =>
      let ps ← properties
      let next ← peek
      match next with
      | some (.scalar text isPlain) =>
        skip
        addNamed ps.name ⟨scalarKind ps.tag isPlain text, .scalar text⟩
      | some .flowSequenceStart =>
        skip
        let n ← addNamed ps.name ⟨collectionKind ps.tag .sequence, .sequence []⟩
        fill n (.sequence (← flowItems true fuel))
      | some .flowMappingStart =>
        skip
        let n ← addNamed ps.name ⟨collectionKind ps.tag .mapping, .mapping []⟩
        fill n (.mapping (← flowEntries true fuel))
      | _ =>
        if dashes && next == some .entry then
          let n ← addNamed ps.name ⟨collectionKind ps.tag .sequence, .sequence []⟩
          fill n (.sequence (← dashItems fuel))
        else if block && next == some .sequenceStart then
          skip
          let n ← addNamed ps.name ⟨collectionKind ps.tag .sequence, .sequence []⟩
          fill n (.sequence (← blockItems fuel))
        else if block && next == some .mappingStart then
          skip
          let n ← addNamed ps.name ⟨collectionKind ps.tag .mapping, .mapping []⟩
          fill n (.mapping (← blockEntries fuel))
        else if ps.name.isSome || ps.tag.isSome then
          addNamed ps.name ⟨scalarKind ps.tag true "", .scalar ""⟩
        else fail .malformed

/-- A node, or an empty one if one of some tokens comes next. -/
def nodeUnless (ends : List Token) (block dashes : Bool) : (fuel : Nat) → Read NodeId
  | 0 => fail .malformed
  | fuel + 1 => do
    if ← nextIs ends then add .empty else node block dashes fuel

/-- The entries after dashes, up to the end of their indentation. -/
def blockItems : (fuel : Nat) → Read (List NodeId)
  | 0 => fail .malformed
  | fuel + 1 => do
    if ← nextIs [.entry] then
      skip
      let item ← nodeUnless [.entry, .blockEnd] true false fuel
      return item :: (← blockItems fuel)
    else
      expect .blockEnd
      return []

/-- The entries after dashes that have no indentation of their own. -/
def dashItems : (fuel : Nat) → Read (List NodeId)
  | 0 => fail .malformed
  | fuel + 1 => do
    if ← nextIs [.entry] then
      skip
      let item ← nodeUnless [.entry, .key, .value, .blockEnd] true false fuel
      return item :: (← dashItems fuel)
    else return []

/-- The entries of a map, up to the end of their indentation. -/
def blockEntries : (fuel : Nat) → Read (List (NodeId × NodeId))
  | 0 => fail .malformed
  | fuel + 1 => do
    if ← nextIs [.key] then
      skip
      let key ← nodeUnless [.key, .value, .blockEnd] true true fuel
      let value ← if ← nextIs [.value] then do
          skip
          nodeUnless [.key, .value, .blockEnd] true true fuel
        else add .empty
      return (key, value) :: (← blockEntries fuel)
    else
      expect .blockEnd
      return []

/-- The entries of a sequence between brackets. -/
def flowItems (first : Bool) : (fuel : Nat) → Read (List NodeId)
  | 0 => fail .malformed
  | fuel + 1 => do
    if ← nextIs [.flowSequenceEnd] then
      skip
      return []
    else
      if !first then expect .comma
      if ← nextIs [.key] then
        skip
        let item ← add ⟨.mapping, .mapping []⟩
        let key ← nodeUnless [.value, .comma, .flowSequenceEnd] false false fuel
        let value ← if ← nextIs [.value] then do
            skip
            nodeUnless [.comma, .flowSequenceEnd] false false fuel
          else add .empty
        let item ← fill item (.mapping [(key, value)])
        return item :: (← flowItems false fuel)
      else if ← nextIs [.flowSequenceEnd] then
        skip
        return []
      else
        let item ← node false false fuel
        return item :: (← flowItems false fuel)

/-- The entries of a map between braces. -/
def flowEntries (first : Bool) : (fuel : Nat) → Read (List (NodeId × NodeId))
  | 0 => fail .malformed
  | fuel + 1 => do
    if ← nextIs [.flowMappingEnd] then
      skip
      return []
    else
      if !first then expect .comma
      if ← nextIs [.key] then
        skip
        let key ← nodeUnless [.value, .comma, .flowMappingEnd] false false fuel
        let value ← if ← nextIs [.value] then do
            skip
            nodeUnless [.comma, .flowMappingEnd] false false fuel
          else add .empty
        return (key, value) :: (← flowEntries false fuel)
      else if ← nextIs [.flowMappingEnd] then
        skip
        return []
      else
        let key ← node false false fuel
        return (key, ← add .empty) :: (← flowEntries false fuel)

end

/-! ## Documents -/

/-- The short names that tags have without a directive. -/
def commonHandles : List (String × String) := [("!", "!"), ("!!", Kind.coreStart)]

/-- The directives before a document: their short names, and whether the version was told. -/
def directives (handles : List (String × String)) (versioned : Bool) : (fuel : Nat) → Read Unit
  | 0 => fail .malformed
  | fuel + 1 => do
    match ← peek with
    | some (.directive d) =>
      skip
      match d with
      | .version major =>
        if versioned || major != 1 then fail .malformed else directives handles true fuel
      | .handle name start =>
        if (handles.lookup name).isSome then fail .malformed
        else directives ((name, start) :: handles) versioned fuel
      | .unknown => directives handles versioned fuel
    | _ => modify fun r => { r with handles := handles ++ commonHandles }

/-- Passes over the marks that end documents. -/
def skipEnds : (fuel : Nat) → Read Unit
  | 0 => fail .malformed
  | fuel + 1 => do
    if ← nextIs [.documentEnd] then
      skip
      skipEnds fuel

/-- The content of a document after its mark. -/
def content (fuel : Nat) : Read NodeId := do
  match ← peek with
  | none | some (.directive _) | some .documentStart | some .documentEnd => add .empty
  | _ => node true false fuel

/-- Makes sure that no document comes next. The start of one is read before it is refused. -/
def expectEnd (fuel : Nat) : Read Unit := do
  skipEnds fuel
  if (← peek).isSome then
    directives [] false fuel
    expect .documentStart
    fail .malformed

/-- The only document of a text, if it has one. -/
def document (fuel : Nat) : Read (Option NodeId) := do
  match ← peek with
  | none => return none
  | some (.directive _) | some .documentStart =>
    directives [] false fuel
    expect .documentStart
    let root ← content fuel
    expectEnd fuel
    return some root
  | _ =>
    modify fun r => { r with handles := commonHandles }
    let root ← node true false fuel
    expectEnd fuel
    return some root

end Read

/-- The one document of a text; nothing if the text has none. -/
def Document.ofText? (s : List Char) : Except Failure (Option Document) := do
  let tokens := Tokens.ofText s
  let start : Reading := { tokens := tokens.list, failure := tokens.failure }
  let (root, r) ← (Read.document (4 * tokens.list.length + 8)).run start
  return root.map fun root => ⟨r.graph, root⟩

end ModuleAudit.Yaml
