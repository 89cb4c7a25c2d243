import ModuleAudit.Disk.Access
import ModuleAudit.Text.Quoted

/-!
# Faults

A `Fault` is why an operation gives no answer. Causes that lie in what the run was asked to do are
values of `InvocationCause`; all others are told apart by constructors of their own.
`Fault.kindName` and `Fault.message` are the words of reports and messages.
-/

namespace ModuleAudit

open ModuleAudit.Text (quote)

/-- Why a rule catalog cannot be loaded. -/
inductive CatalogCause
  | unreadable (cause : AccessError)
  | malformed
  | notMap
  | groupsNotList
  | rulesNotList
  /-- What is wrong with the entries, in order. -/
  | problems (messages : List String)
  deriving DecidableEq, Repr

/-- Why a run cannot start. -/
inductive InvocationCause
  | rootMissing (root : Path)
  | invalidName (name : String)
  | moduleMissing (directory : Path)
  | sourceMissing (directory : Path)
  | catalog (path : Path) (cause : CatalogCause)
  /-- A cause given by a check of the caller. -/
  | other (message : String)
  deriving DecidableEq, Repr

/-- Why an operation gives no answer. -/
inductive Fault
  | invocation (cause : InvocationCause)
  /-- A map has no such key. -/
  | missingKey (key : String)
  /-- A map has no such number among its keys. -/
  | missingNumber (key : Nat)
  /-- Text that is no whole number to a base, as messages show it. -/
  | notNumber (base : Nat) (shown : String)
  /-- A whole number with more digits than are read. -/
  | tooManyDigits (count : Nat)
  /-- A condition with an operator that has no meaning. -/
  | unknownOperator (operator : String)
  /-- A check registered under an id that is taken. -/
  | duplicateCheck (id : String)
  /-- A value that is not what its use needs, with the reason. -/
  | badValue (reason : String)
  /-- An operation that the kind of a value does not have, with the reason. -/
  | wrongKind (reason : String)
  /-- A part that a value of a kind does not have. -/
  | missingPart (kind part : String)
  /-- A position beyond the end, with the reason. -/
  | outOfRange (reason : String)
  /-- A number without bounds where a whole number is needed. -/
  | infinite
  /-- A number that does not fit into a word. -/
  | wordOverflow
  /-- A number that does not fit into a long word. -/
  | longOverflow
  /-- A whole number that is too large for a fraction. -/
  | fractionOverflow
  /-- A whole number with more digits than are written. -/
  | numberTooLong
  /-- A condition that is a part of itself. -/
  | endless
  /-- Bytes that spell no text. -/
  | undecodable
  /-- A path that cannot be asked about. -/
  | access (path : Path) (cause : AccessError)
  /-- A fault that a check or a process of the caller reports, by kind and message. -/
  | reported (kind message : String)
  deriving DecidableEq, Repr

namespace CatalogCause

/-- What is said about the catalog after its path. -/
def message : CatalogCause → String
  | unreadable e => "cannot read rule catalog: " ++ e.message
  | malformed => "invalid YAML"
  | notMap => "expected a YAML mapping at top level"
  | groupsNotList => "'groups' must be a list"
  | rulesNotList => "'rules' must be a list"
  | problems messages => "rule catalog validation failed:\n  " ++ "\n  ".intercalate messages

end CatalogCause

namespace InvocationCause

/-- What is said about a run that cannot start. -/
def message : InvocationCause → String
  | rootMissing root => "platform root does not exist: " ++ root.toString
  | invalidName name => "invalid connector name: " ++ quote name
  | moduleMissing directory => "connector module not found: " ++ directory.toString
  | sourceMissing directory =>
    "connector file not found: no *Connector.java under " ++ directory.toString
  | catalog path cause => path.toString ++ ": " ++ cause.message
  | other message => message

end InvocationCause

namespace Fault

/-- The word for the kind of a fault. -/
def kindName : Fault → String
  | invocation (.catalog ..) => "CatalogLoadError"
  | invocation _ => "InvocationError"
  | missingKey _ | missingNumber _ => "KeyError"
  | notNumber .. | tooManyDigits _ | unknownOperator _ | duplicateCheck _ => "ValueError"
  | badValue _ | numberTooLong => "ValueError"
  | wrongKind _ => "TypeError"
  | missingPart .. => "AttributeError"
  | outOfRange _ => "IndexError"
  | infinite | wordOverflow | longOverflow | fractionOverflow => "OverflowError"
  | endless => "RecursionError"
  | undecodable => "UnicodeDecodeError"
  | access _ .nullCharacter => "ValueError"
  | access .. => "OSError"
  | reported kind _ => kind

/-- How many characters of a faulty number are shown. -/
def shownLiteral : Nat := 200

/-- What is said of text that is no whole number to a base, given the text in quotes. -/
def notNumberText (base : Nat) (shown : String) : String :=
  s!"invalid literal for int() with base {base}: " ++ String.ofList (shown.toList.take shownLiteral)

/-- What is said about a fault. -/
def message : Fault → String
  | invocation cause => cause.message
  | missingKey key => quote key
  | missingNumber key => toString key
  | notNumber base shown => notNumberText base shown
  | tooManyDigits count =>
    s!"Exceeds the limit (4300 digits) for integer string conversion: value has {count} digits; " ++
      "use sys.set_int_max_str_digits() to increase the limit"
  | unknownOperator operator => "Unknown operator: " ++ operator
  | duplicateCheck id => s!"predicate for {id} registered twice"
  | badValue reason => reason
  | wrongKind reason => reason
  | missingPart kind part => s!"'{kind}' object has no attribute '{part}'"
  | outOfRange reason => reason
  | infinite => "cannot convert float infinity to integer"
  | wordOverflow => "Python int too large to convert to C int"
  | longOverflow => "Python int too large to convert to C long"
  | fractionOverflow => "int too large to convert to float"
  | numberTooLong =>
    "Exceeds the limit (4300 digits) for integer string conversion; " ++
      "use sys.set_int_max_str_digits() to increase the limit"
  | endless => "maximum recursion depth exceeded while getting the str of an object"
  | undecodable => ""
  | access _ .nullCharacter => AccessError.nullCharacter.message
  | access path cause => s!"[Errno {cause.number}] {cause.message}: " ++ quote path.toString
  | reported kind message => if kind == "KeyError" then quote message else message

end Fault

end ModuleAudit
