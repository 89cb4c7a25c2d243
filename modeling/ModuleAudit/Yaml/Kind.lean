import ModuleAudit.Pattern.Search

/-!
# The kinds of YAML nodes

The tag of a node tells what its content is read as. A node without a tag is a collection or a text,
unless it is a plain scalar: then its form decides (`Kind.ofPlain`), by the rules of YAML 1.1, which
know many words for the truth values, octal numbers after a zero, and numbers to the base of sixty.
-/

namespace ModuleAudit.Yaml

/-- What a node is read as. -/
inductive Kind
  | null
  | bool
  | int
  | real
  | text
  | binary
  | timestamp
  | sequence
  | mapping
  | set
  /-- A sequence of maps with one entry each. -/
  | pairs
  /-- The key of entries that are taken over from other maps. -/
  | merge
  /-- The key of the entry that stands for a whole map. -/
  | defaultValue
  | unknown
  deriving DecidableEq, Repr

namespace Kind

/-- The start of the tags that YAML itself defines. -/
def coreStart : String := "tag:yaml.org,2002:"

/-- The tags that YAML itself defines, without their start. -/
def coreTags : List (String × Kind) := [
  ("null", null), ("bool", bool), ("int", int), ("float", real), ("str", text), ("binary", binary),
  ("timestamp", timestamp), ("seq", sequence), ("map", mapping), ("set", set), ("omap", pairs),
  ("pairs", pairs), ("merge", merge), ("value", defaultValue)]

/-- The kind that a tag tells. -/
def ofTag (tag : String) : Kind :=
  ((coreTags.find? fun (name, _) => coreStart ++ name == tag).map (·.2)).getD unknown

/-! ## Forms of plain scalars -/

/-- A digit, or an underscore between digits. -/
def isDigitMark (c : Char) : Bool := c.isDigit || c == '_'

/-- A sign, if there is one. -/
def sign : Pattern := .optional (.char fun c => c == '-' || c == '+')

/-- A digit and more of them, with underscores. -/
def digits : Pattern := .seq (.char Char.isDigit) (.most isDigitMark)

/-- The places after the first one of a number to the base of sixty. -/
def sixties : Pattern :=
  let place := Pattern.sequence [
    .exactly ':', .optional (.char fun c => '0' ≤ c && c ≤ '5'), .char Char.isDigit]
  .seq place (.star place)

/-- A power of ten, with its sign. -/
def power : Pattern :=
  .sequence [
    .char fun c => c == 'e' || c == 'E', .char fun c => c == '-' || c == '+', .many Char.isDigit]

/-- One of some words. -/
def words (ws : List String) : Pattern := .oneOf (ws.map .word)

/-- The words for the truth values. -/
def boolForm : Pattern :=
  words ["yes", "Yes", "YES", "no", "No", "NO", "true", "True", "TRUE", "false", "False", "FALSE",
    "on", "On", "ON", "off", "Off", "OFF"]

/-- Whole numbers: to the bases of two, eight, ten, sixteen and sixty. -/
def intForm : Pattern := .oneOf [
  .sequence [sign, .word "0b", .many fun c => c == '0' || c == '1' || c == '_'],
  .sequence [sign, .word "0", .many fun c => ('0' ≤ c && c ≤ '7') || c == '_'],
  .sequence [sign, .word "0"],
  .sequence [sign, .char fun c => '1' ≤ c && c ≤ '9', .most isDigitMark],
  .sequence [sign, .word "0x", .many fun c =>
    c.isDigit || ('a' ≤ c && c ≤ 'f') || ('A' ≤ c && c ≤ 'F') || c == '_'],
  .sequence [sign, .char fun c => '1' ≤ c && c ≤ '9', .most isDigitMark, sixties]]

/-- Fractional numbers, infinity, and what is not a number. -/
def realForm : Pattern := .oneOf [
  .sequence [sign, digits, .exactly '.', .most isDigitMark, .optional power],
  .sequence [.exactly '.', digits, .optional power],
  .sequence [sign, digits, sixties, .exactly '.', .most isDigitMark],
  .sequence [sign, words [".inf", ".Inf", ".INF"]],
  words [".nan", ".NaN", ".NAN"]]

/-- The words for nothing. -/
def nullForm : Pattern := .oneOf [.exactly '~', words ["null", "Null", "NULL"]]

/-- One digit or two. -/
def oneOrTwo : Pattern := .seq (.char Char.isDigit) (.optional (.char Char.isDigit))

/-- A number of digits. -/
def exactDigits (n : Nat) : Pattern := .sequence (List.replicate n (.char Char.isDigit))

/-- Where the day and the hour meet. -/
def dayGap : Pattern :=
  .either (.char fun c => c == 'T' || c == 't') (.many fun c => c == ' ' || c == '\t')

/-- The distance from the standard time. -/
def zone : Pattern := .either (.exactly 'Z')
  (.sequence [.char fun c => c == '-' || c == '+', oneOrTwo,
    .optional (.seq (.exactly ':') (exactDigits 2))])

/-- Days, and points in time. -/
def timestampForm : Pattern := .either
  (.sequence [exactDigits 4, .exactly '-', exactDigits 2, .exactly '-', exactDigits 2, .textEnd])
  (.sequence [exactDigits 4, .exactly '-', oneOrTwo, .exactly '-', oneOrTwo, dayGap,
    oneOrTwo, .exactly ':', exactDigits 2, .exactly ':', exactDigits 2,
    .optional (.seq (.exactly '.') (.most Char.isDigit)),
    .optional (.seq (.most fun c => c == ' ' || c == '\t') zone)])

/-- The forms of plain scalars that are no text, the first that fits first. -/
def forms : List (Pattern × Kind) := [
  (boolForm, bool), (realForm, real), (intForm, int), (.word "<<", merge), (nullForm, null),
  (timestampForm, timestamp), (.word "=", defaultValue)]

/-- The kind of a plain scalar. One without any characters is nothing. -/
def ofPlain (s : List Char) : Kind :=
  if s.isEmpty then null
  else
    let fits (form : Pattern) : Bool := ((Pattern.seq form .textEnd).prefixMatch? s).isSome
    ((forms.find? fun (form, _) => fits form).map (·.2)).getD text

end Kind

end ModuleAudit.Yaml
