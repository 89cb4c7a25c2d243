import ModuleAudit.Checks.Basic
import ModuleAudit.Text.Lower

/-!
# Names of a connector

The identifier, the display name and the icon of a connector, the tokens of its capabilities, and
the names and labels of its properties (105 to 110).
-/

namespace ModuleAudit.Naming

open ModuleAudit.Java (Source)
open ModuleAudit.Check (listed)
open ModuleAudit.Text (lower)

/-- Whether a text consists of ASCII letters, digits and spaces. -/
def isPlain (s : List Char) : Bool := s.all fun c => c.isAlphanum || c == ' '

/-- The identifier of the connector is in capitals. -/
def typeIdentifier : Check := .ofFiles fun f =>
  match f.primary.returnedString "getType" with
  | none => .warn "could not resolve the getType() return value"
  | some value =>
    let cs := value.toList
    if cs.contains ' ' then
      .violation ("getType() returns \"" ++ value ++ "\", which contains spaces")
    else if cs.any Char.isLower then
      .warn ("getType() returns \"" ++ value ++ "\"; convention is SCREAMING_SNAKE_CASE")
    else if cs.any fun c => !(c.isUpper || c.isDigit || c == '_') then
      .violation ("getType() returns \"" ++ value ++ "\"; only A-Z, 0-9 and _ are allowed")
    else .ok ("getType() returns \"" ++ value ++ "\"")

/-- The display name has no special characters. -/
def displayName : Check := .ofFiles fun f =>
  match f.primary.returnedString "getName" with
  | none => .warn "could not resolve the getName() return value"
  | some value =>
    if isPlain value.toList then .ok ("getName() returns \"" ++ value ++ "\"")
    else
      .violation
        ("getName() returns \"" ++ value ++ "\"; only letters, digits and spaces are allowed")

/-! ## Properties -/

/-- The fields of properties have names without underscores. -/
def propertyFieldNames : Check := .ofFiles fun f =>
  let fields := f.primary.annotatedFields "Property"
  let snake := (fields.map (·.name)).filter (·.toList.contains '_')
  if !snake.isEmpty then
    .violation ("@Property fields use underscores instead of camelCase: " ++ listed snake)
  else if fields.isEmpty then .ok "no @Property fields"
  else .ok s!"{fields.length} @Property field(s) use camelCase"

/-- The label of a property. -/
def label : Pattern :=
  .sequence [
    .edge, .word "label", .gap, .exactly '=', .gap, .exactly '"', .capture 1 Source.literalContent,
    .exactly '"']

/-- The labels in the arguments of an annotation. -/
def labelsIn (arguments : List Char) : List (List Char) :=
  (label.findAll arguments).map (·.capture 1)

/-- The properties have plain labels and kinds that exist. -/
def propertyAnnotations : Check := .ofFiles fun f =>
  let uses := f.primary.annotations "Property"
  if uses.isEmpty then .warn "no @Property annotations; connectors normally expose configuration"
  else
    let invalid := (uses.flatMap fun use => labelsIn use.arguments).filter fun l => !isPlain l
    let labels :=
      if invalid.isEmpty then []
      else
        ["labels with special characters: " ++
          listed (invalid.map fun l => "\"" ++ String.ofList l ++ "\"")]
    let kinds :=
      if f.primary.mentions ["PropertyType.INTEGER"] then
        ["PropertyType.INTEGER does not exist (use PropertyType.NUMERIC)"]
      else []
    match labels ++ kinds with
    | [] => .ok s!"{uses.length} @Property annotation(s) are compliant"
    | problems => .violation ("; ".intercalate problems)

/-! ## Icons -/

/-- The text with an underscore before each ASCII capital that is not at its start. -/
def separateCapitals (s : List Char) : List Char :=
  s.take 1 ++ (s.drop 1).flatMap fun c => if c.isUpper then ['_', c] else [c]

/-- The first word of a text in capitals: an ASCII capital and the small letters after it. -/
def firstWord (s : List Char) : List Char :=
  match s with
  | c :: rest => if c.isUpper then c :: rest.takeWhile Char.isLower else []
  | [] => []

/-- The elements without those that have been there before. -/
def distinct {α : Type} [BEq α] (seen : List α) : List α → List α
  | [] => []
  | a :: as => if seen.contains a then distinct seen as else a :: distinct (a :: seen) as

/-- The names that an icon of a connector may have, the most specific first. -/
def iconCandidates (displayName : String) : List String :=
  let compact := displayName.toList.filter (· != ' ')
  let stems := [lower (separateCapitals compact), lower compact, lower (firstWord compact)]
  (distinct [] (stems.filter (!·.isEmpty))).map String.ofList

/-- The first of some icons that a directory holds. -/
def firstIcon (directory : Path) : List String → Inspect (Option String)
  | [] => return none
  | icon :: icons => do
    if ← Inspect.hasFile (directory.child icon) then return some icon else firstIcon directory icons

/-- The connector has an icon. -/
def connectorIcon : Check := fun f settings => do
  match (f.primary.returnedString "getName").filter (!·.isEmpty) with
  | none => return .skip "no display name to derive an icon file from"
  | some name =>
    let directory ← .ofExcept (settings.iconDirectory f.module.root)
    if ← Inspect.hasDirectory directory then
      let icons := (iconCandidates name).map (· ++ ".svg")
      match ← firstIcon directory icons with
      | some icon => return .ok ("found icon " ++ icon)
      | none =>
        return .violation
          ("no icon found in " ++ directory.toString ++ " (checked: " ++ listed icons ++ ")")
    else return .skip ("icon directory not found: " ++ directory.toString)

/-! ## Capabilities -/

/-- Tokens that are no capabilities, with what is said about each. -/
def invalidCapabilities : List (String × String) := [
  ("ConnectorCapabilities.READ", " (use REPLICATION_SOURCE)"),
  ("ConnectorCapabilities.WRITE", " (use REPLICATION_DESTINATION)"),
  ("ConnectorCapabilities.SCHEMA_DISCOVERY", " (does not exist)")]

/-- The connector uses capabilities that exist. -/
def capabilityTokens : Check := .ofFiles fun f =>
  let wrong := invalidCapabilities.filterMap fun (token, hint) =>
    if f.primary.mentions [token] then some (token ++ hint) else none
  if wrong.isEmpty then .ok "capability tokens are valid"
  else .violation ("invalid capability token(s): " ++ "; ".intercalate wrong)

end ModuleAudit.Naming
