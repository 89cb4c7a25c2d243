import ModuleAudit.Condition.Basic
import ModuleAudit.Connector.Files

/-!
# What kind of connector a module is

`Classification.ofSource` reads off the connector class whether it delegates to a shared base class,
what it can do, and, for a destination, whether it stages files for a warehouse or sends rows to an
interface. The facts that conditions speak of are a view of the classification.
-/

namespace ModuleAudit

/-- Whether a shared base class does the common work. -/
inductive Delegation
  | standalone
  | baseDelegated
  deriving DecidableEq, Repr

/-- How a destination takes its data. -/
inductive DestinationSubtype
  | none
  | warehouse
  | activation
  deriving DecidableEq, Repr

/-- What kind of connector a module is. -/
structure Classification where
  delegation : Delegation
  hasSource : Bool
  hasDestination : Bool
  subtype : DestinationSubtype
  /-- The shared base class, if there is one. -/
  baseType : Option String := none
  deriving DecidableEq, Repr

/-- The word for a delegation. -/
def Delegation.word : Delegation → String
  | standalone => "standalone"
  | baseDelegated => "base_delegated"

/-- The word for a kind of destination. -/
def DestinationSubtype.word : DestinationSubtype → String
  | none => "none"
  | warehouse => "warehouse"
  | activation => "activation"

namespace Classification

/-- Whether a shared base class does the common work. -/
def isBaseDelegated (c : Classification) : Bool := c.delegation == .baseDelegated

/-- What the connector is for. -/
def purpose (c : Classification) : String :=
  match c.hasSource, c.hasDestination with
  | true, true => "dual-purpose"
  | false, true => "destination-only"
  | true, false => "source-only"
  | false, false => "no capabilities declared"

/-- The facts that conditions speak of. -/
def facts (c : Classification) : Facts := [
  ("delegation", .text c.delegation.word),
  ("capability.source", .bool c.hasSource),
  ("capability.destination", .bool c.hasDestination),
  ("destination.subtype", .text c.subtype.word),
  ("purpose", .text c.purpose)]

/-! ## Reading the connector class -/

/-- The shared base classes, which supply the life cycle, cursor fields and cancellation. -/
def baseTypes : List String := ["BaseJdbcConnector"]

/-- The words by which a connector declares that it reads data. -/
def sourceCapabilities : List String := ["REPLICATION_SOURCE"]

/-- The words by which a connector declares that it writes data. -/
def destinationCapabilities : List String := ["REPLICATION_DESTINATION", "REVERSE_ETL_DESTINATION"]

/-- The words that only a destination behind an interface uses. -/
def activationMarkers : List String := ["getActivationTarget", "activationTarget"]

/-- The word for an operation that is refused. -/
def unsupported : Pattern := .sequence [.edge, .word "UnsupportedOperationException", .edge]

/-- A throw at the start of a body. -/
def leadingThrow : Pattern := .sequence [.gap, .word "throw", .edge]

/-- Whether a method refuses to work: it names the refusal, or throws before anything else. -/
def rejects (m : Java.Method) : Bool :=
  unsupported.found m.bare || (leadingThrow.prefixMatch? m.bare).isSome

/-- The method that stages files, if a file declares it. -/
def stageMethod? (s : Java.Source) : Option Java.Method := s.method? "stage" "StageResponse"

/-- The kind of a destination. Without a working method that stages files, or with a marker of the
other kind, it sends rows to an interface; with neither a method nor a marker it counts as a
warehouse. -/
def destinationSubtype (s : Java.Source) : DestinationSubtype :=
  let marked := s.mentions activationMarkers
  match stageMethod? s with
  | some stage => if rejects stage || marked then .activation else .warehouse
  | none => if marked then .activation else .warehouse

/-- The classification of a connector class. -/
def ofSource (primary : Java.Source) : Classification :=
  let base := primary.superclass.filter baseTypes.contains
  let hasDestination := primary.mentions destinationCapabilities
  { delegation := if base.isSome then .baseDelegated else .standalone
    hasSource := primary.mentions sourceCapabilities
    hasDestination
    subtype := if hasDestination then destinationSubtype primary else .none
    baseType := base }

end Classification

end ModuleAudit
