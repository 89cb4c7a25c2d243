import ModuleAudit.Value.Basic

/-!
# The kinds of values

`Value.kind` is the kind of a value. Kinds are values of a kind as well, and each is a case of more
general ones, up to the kind of all values (`ValueKind.lineage`). A kind has a name, by which
messages call it, and most kinds say what they are for.
-/

namespace ModuleAudit

/-- A kind of values. -/
inductive ValueKind
  | null
  | bool
  | int
  | real
  | text
  | list
  | map
  | tuple
  | set
  | bytes
  | date
  | time
  /-- Kinds themselves. -/
  | kind
  /-- All values. -/
  | any
  deriving DecidableEq, Repr

namespace ValueKind

/-- What messages call the kind. -/
def name : ValueKind → String
  | null => "NoneType"
  | bool => "bool"
  | int => "int"
  | real => "float"
  | text => "str"
  | list => "list"
  | map => "dict"
  | tuple => "tuple"
  | set => "set"
  | bytes => "bytes"
  | date => "date"
  | time => "datetime"
  | kind => "type"
  | any => "object"

/-- The kinds that a kind is a case of, itself first. -/
def lineage : ValueKind → List ValueKind
  | bool => [bool, int, any]
  | time => [time, date, any]
  | any => [any]
  | k => [k, any]

/-- The next more general kind. -/
def base? (k : ValueKind) : Option ValueKind := k.lineage[1]?

/-- The kind as a message shows it. -/
def shown (k : ValueKind) : String := "<class '" ++ k.name ++ "'>"

/-- Lines of a description. -/
def lines (ls : List String) : Option String := some ("\n".intercalate ls)

/-- What a kind says about itself. -/
def description? : ValueKind → Option String
  | bool => lines [
    "bool(x) -> bool",
    "",
    "Returns True when the argument x is true, False otherwise.",
    "The builtins True and False are the only two instances of the class bool.",
    "The class bool is a subclass of the class int, and cannot be subclassed."]
  | int => lines [
    "int([x]) -> integer",
    "int(x, base=10) -> integer",
    "",
    "Convert a number or string to an integer, or return 0 if no arguments",
    "are given.  If x is a number, return x.__int__().  For floating point",
    "numbers, this truncates towards zero.",
    "",
    "If x is not a number or if base is given, then x must be a string,",
    "bytes, or bytearray instance representing an integer literal in the",
    "given base.  The literal can be preceded by '+' or '-' and be surrounded",
    "by whitespace.  The base defaults to 10.  Valid bases are 0 and 2-36.",
    "Base 0 means to interpret the base from the string as an integer literal.",
    ">>> int('0b100', base=0)",
    "4"]
  | real => some "Convert a string or number to a floating point number, if possible."
  | text => lines [
    "str(object='') -> str",
    "str(bytes_or_buffer[, encoding[, errors]]) -> str",
    "",
    "Create a new string object from the given object. If encoding or",
    "errors is specified, then the object must expose a data buffer",
    "that will be decoded using the given encoding and error handler.",
    "Otherwise, returns the result of object.__str__() (if defined)",
    "or repr(object).",
    "encoding defaults to sys.getdefaultencoding().",
    "errors defaults to 'strict'."]
  | list => lines [
    "Built-in mutable sequence.",
    "",
    "If no argument is given, the constructor creates a new empty list.",
    "The argument must be an iterable if specified."]
  | map => lines [
    "dict() -> new empty dictionary",
    "dict(mapping) -> new dictionary initialized from a mapping object's",
    "    (key, value) pairs",
    "dict(iterable) -> new dictionary initialized as if via:",
    "    d = \x7b\x7d",
    "    for k, v in iterable:",
    "        d[k] = v",
    "dict(**kwargs) -> new dictionary initialized with the name=value pairs",
    "    in the keyword argument list.  For example:  dict(one=1, two=2)"]
  | tuple => lines [
    "Built-in immutable sequence.",
    "",
    "If no argument is given, the constructor returns an empty tuple.",
    "If iterable is specified the tuple is initialized from iterable's items.",
    "",
    "If the argument is a tuple, the return value is the same object."]
  | kind => lines [
    "type(object) -> the object's type",
    "type(name, bases, dict, **kwds) -> a new type"]
  | any => lines [
    "The base class of the class hierarchy.",
    "",
    "When called, it accepts no arguments and returns a new featureless",
    "instance that has no instance attributes and cannot be given any.",
    ""]
  | _ => none

end ValueKind

/-- The kind of a value. -/
def Value.kind : Value → ValueKind
  | null => .null
  | bool _ => .bool
  | int _ => .int
  | real _ => .real
  | text _ => .text
  | list _ => .list
  | map _ => .map
  | tuple _ => .tuple
  | set _ => .set
  | bytes _ => .bytes
  | date .. => .date
  | time _ => .time
  | nan _ => .real
  | again isMap => if isMap then .map else .list

/-- What messages call the kind of a value. -/
def Value.kindName (v : Value) : String := v.kind.name

end ModuleAudit
