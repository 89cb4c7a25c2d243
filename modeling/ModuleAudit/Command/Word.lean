import ModuleAudit.Text.Digit
import ModuleAudit.Text.Quoted

/-!
# The words of a command line

A command has options, each with names of its own. `classify` says of every word of a command line
whether it is an option or stands for itself. A long name may be cut short as long as one option
alone fits; a value may be attached to a name after an equals sign; short names may be joined. After
two dashes every word stands for itself.
-/

namespace ModuleAudit.Command

open ModuleAudit.Text (isDecimal quote)

/-- An option of a command; `α` tells the options of a command apart. -/
structure OptionForm (α : Type) where
  key : α
  names : List String
  takesValue : Bool := false

/-- The option as messages name it. -/
def OptionForm.label {α : Type} (f : OptionForm α) : String := "/".intercalate f.names

/-- What is wrong with a command line. -/
inductive Complaint
  /-- A word that may stand for several options. -/
  | ambiguous (written : String) (names : List String)
  /-- A value attached to an option that takes none. -/
  | valueIgnored (label value : String)
  /-- An option without the value that it takes. -/
  | valueMissing (label : String)
  | notReal (label value : String)
  | unknownCommand (written : String) (commands : List String)
  | argumentMissing (name : String)
  | leftOver (words : List String)
  deriving DecidableEq, Repr

/-- The complaint in words. -/
def Complaint.message : Complaint → String
  | ambiguous written names =>
    "ambiguous option: " ++ written ++ " could match " ++ ", ".intercalate names
  | valueIgnored label value =>
    "argument " ++ label ++ ": ignored explicit argument " ++ quote value
  | valueMissing label => "argument " ++ label ++ ": expected one argument"
  | notReal label value => "argument " ++ label ++ ": invalid float value: " ++ quote value
  | unknownCommand written commands =>
    "argument command: invalid choice: " ++ quote written ++ " (choose from " ++
      ", ".intercalate (commands.map quote) ++ ")"
  | argumentMissing name => "the following arguments are required: " ++ name
  | leftOver words => "unrecognized arguments: " ++ " ".intercalate words

/-- A word of a command line, as the options of a command make it out. -/
inductive Word (α : Type)
  /-- A word that stands for itself. -/
  | plain (text : String)
  /-- An option under one of its names, with the text attached to the name. -/
  | option (form : OptionForm α) (name : String) (attached : Option String) (text : String)
  /-- What looks like an option that the command does not have. -/
  | unknown (text : String)
  /-- The two dashes after which every word stands for itself. -/
  | separator

namespace Word

variable {α : Type}

/-- The word as it is written. -/
def text : Word α → String
  | plain text => text
  | option _ _ _ text => text
  | unknown text => text
  | separator => "--"

/-- The options under all their names. -/
def named (forms : List (OptionForm α)) : List (OptionForm α × String) :=
  forms.flatMap fun f => f.names.map fun n => (f, n)

/-- The option with exactly a name. -/
def withName? (forms : List (OptionForm α)) (name : String) : Option (OptionForm α) :=
  forms.find? (·.names.contains name)

/-- A name and the text after the first equals sign, if there is one. -/
def splitValue (s : List Char) : String × Option String :=
  let name := s.takeWhile (· != '=')
  match s.drop name.length with
  | [] => (String.ofList name, none)
  | _ :: value => (String.ofList name, some (String.ofList value))

/-- What a word may stand for that is no name of an option: a name cut short, or a short name with
something joined to it. -/
def readings (forms : List (OptionForm α)) (s : List Char) :
    List (OptionForm α × String × Option String) :=
  if ['-', '-'].isPrefixOf s then
    let (start, value) := splitValue s
    (named forms).filterMap fun (f, n) => if n.startsWith start then some (f, n, value) else none
  else
    (named forms).filterMap fun (f, n) =>
      if n.toList == s.take 2 then some (f, n, some (String.ofList (s.drop 2)))
      else if s.isPrefixOf n.toList then some (f, n, none)
      else none

/-- Whether all is decimal digits. -/
def isDigits (s : List Char) : Bool := s.all isDecimal

/-- Whether a word is a negative number, with or without a point. A line end after it is passed
over. -/
def isNegativeNumber (s : List Char) : Bool :=
  match if s.getLast? == some '\n' then s.dropLast else s with
  | '-' :: body =>
    let whole := body.takeWhile isDecimal
    match body.drop whole.length with
    | [] => !whole.isEmpty
    | c :: fraction => c == '.' && !fraction.isEmpty && isDigits fraction
  | _ => false

/-- The word that a text is to a command with some options. -/
def ofText (forms : List (OptionForm α)) (text : String) : Except Complaint (Word α) :=
  match text.toList with
  | '-' :: rest =>
    let (name, value) := splitValue text.toList
    match withName? forms text, withName? forms name with
    | some f, _ => .ok (.option f text none text)
    | none, some f => .ok (.option f name value text)
    | none, none =>
      if rest.isEmpty then .ok (.plain text)
      else
        match readings forms text.toList with
        | [(f, n, value)] => .ok (.option f n value text)
        | [] =>
          if isNegativeNumber text.toList || rest.contains ' ' then .ok (.plain text)
          else .ok (.unknown text)
        | several => .error (.ambiguous text (several.map fun (_, n, _) => n))
  | _ => .ok (.plain text)

/-- The words of a command line. -/
def classify (forms : List (OptionForm α)) : List String → Except Complaint (List (Word α))
  | [] => .ok []
  | text :: rest =>
    if text == "--" then .ok (.separator :: rest.map .plain)
    else return (← ofText forms text) :: (← classify forms rest)

/-! ## Joined options -/

/-- The options that a word stands for, each with its value: an option that takes a value takes all
that is attached, and what is attached to a short name that takes none is more short names. -/
def spread (forms : List (OptionForm α)) (f : OptionForm α) (short : Bool) :
    (attached : List Char) → Except Complaint (List (OptionForm α × Option String))
  | [] => if f.takesValue then .ok [(f, some "")] else .error (.valueIgnored f.label "")
  | c :: rest =>
    if f.takesValue then .ok [(f, some (String.ofList (c :: rest)))]
    else
      match if short then withName? forms (String.ofList ['-', c]) else none with
      | none => .error (.valueIgnored f.label (String.ofList (c :: rest)))
      | some g =>
        if rest.isEmpty then .ok [(f, none), (g, none)]
        else return (f, none) :: (← spread forms g short rest)

/-- The options that one option word stands for. -/
def uses (forms : List (OptionForm α)) (f : OptionForm α) (name : String) :
    (attached : Option String) → Except Complaint (List (OptionForm α × Option String))
  | none => .ok [(f, none)]
  | some attached => spread forms f (!name.startsWith "--") attached.toList

end Word

end ModuleAudit.Command
