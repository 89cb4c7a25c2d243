import ModuleAudit.Checks.Basic
import ModuleAudit.Command.Word
import ModuleAudit.Number.Reading

/-!
# What a command line asks for

The program has one command, which verifies a connector. `Request.ofArguments` reads the words after
the program's name: options come in any order, while the connector and the root of the checkout
stand beside each other. All that is not understood is complained about at the end, unless something
else is wrong.
-/

namespace ModuleAudit.Command

/-- What a run of the program is to do. -/
structure Request where
  /-- The name of the connector. -/
  connector : String := ""
  root : Option Path := none
  json : Bool := false
  catalog : Option Path := none
  build : Bool := false
  /-- The seconds that the build may take, unless two dashes stand in their place. -/
  buildTimeout : Option Binary64 := some (.ofInt 300)
  icons : IconPlace := .besideCheckout
  /-- How often more of the log was asked for. -/
  verbosity : Nat := 0
  deriving Repr

/-- Why a command line leads to no request. -/
inductive Ending
  | help
  | version
  /-- A complaint, with the part of the program that it comes from. -/
  | complaint (program : String) (cause : Complaint)
  deriving DecidableEq, Repr

/-- The name of the program. -/
def programName : String := "connectorlint"

/-- The command that verifies a connector. -/
def verifyName : String := "verify"

/-- The name of the program together with the command. -/
def verifyProgram : String := programName ++ " " ++ verifyName

/-! ## Options -/

/-- The options of the program. -/
inductive ProgramOption
  | help
  | version
  deriving DecidableEq, Repr

/-- The options of the program, with their names. -/
def programOptions : List (OptionForm ProgramOption) := [
  ⟨.help, ["-h", "--help"], false⟩,
  ⟨.version, ["--version"], false⟩]

/-- The options of the command. -/
inductive VerifyOption
  | help
  | json
  | catalog
  | build
  | buildTimeout
  | iconDir
  | verbose
  deriving DecidableEq, Repr

/-- The options of the command, with their names. -/
def verifyOptions : List (OptionForm VerifyOption) := [
  ⟨.help, ["-h", "--help"], false⟩,
  ⟨.json, ["--json"], false⟩,
  ⟨.catalog, ["--catalog"], true⟩,
  ⟨.build, ["--build"], false⟩,
  ⟨.buildTimeout, ["--build-timeout"], true⟩,
  ⟨.iconDir, ["--icon-dir"], true⟩,
  ⟨.verbose, ["-v", "--verbose"], false⟩]

namespace Request

/-- The request with an option and its value. -/
def set (r : Request) (f : OptionForm VerifyOption) (value : String) : Except Ending Request :=
  match f.key with
  | .help => .error .help
  | .json => .ok { r with json := true }
  | .catalog => .ok { r with catalog := some (.ofString value) }
  | .build => .ok { r with build := true }
  | .buildTimeout =>
    match Number.readReal? value with
    | some seconds => .ok { r with buildTimeout := some seconds }
    | none => .error (.complaint verifyProgram (.notReal f.label value))
  | .iconDir => .ok { r with icons := .directory (.ofString value) }
  | .verbose => .ok { r with verbosity := r.verbosity + 1 }

/-- The request with two dashes in the place of an option's value: the value is not told. The
bundled catalog takes the place of one that is not told. -/
def unset (r : Request) (f : OptionForm VerifyOption) : Request :=
  match f.key with
  | .catalog => { r with catalog := none }
  | .buildTimeout => { r with buildTimeout := none }
  | .iconDir => { r with icons := .untold }
  | _ => r

/-- The request with some options. -/
def setAll (r : Request) : List (OptionForm VerifyOption × Option String) → Except Ending Request
  | [] => .ok r
  | (f, value) :: rest =>
    if f.takesValue && value == some "--" then setAll (r.unset f) rest
    else do setAll (← set r f (value.getD "")) rest

/-- What the words of the command have come to so far. -/
structure Progress where
  request : Request := {}
  /-- Whether the connector is known. -/
  named : Bool := false
  /-- The words that nobody asked for. -/
  leftOver : List String := []

namespace Progress

/-- One more word that nobody asked for. -/
def leave (p : Progress) (word : String) : Progress := { p with leftOver := p.leftOver ++ [word] }

/-- The connector and the root, if a word stands beside it. Two dashes are no root. -/
def name (p : Progress) (connector : String) (root : Option String) : Progress :=
  { p with
    named := true
    request := { p.request with connector, root := (root.filter (· != "--")).map .ofString } }

end Progress

/-- Whether a word is two dashes. -/
def isSeparator {α : Type} : Word α → Bool
  | .separator => true
  | _ => false

/-- The words without two dashes at their front. -/
def dropSeparator {α : Type} (words : List (Word α)) : List (Word α) :=
  match words with
  | .separator :: rest => rest
  | words => words

/-- How many words after the first one of a stretch go with it: two dashes, and a root with two
dashes after it. The root is given too. -/
def besideConnector {α : Type} (rest : List (Word α)) : Nat × Option String :=
  let gap := rest.length - (dropSeparator rest).length
  match dropSeparator rest with
  | .plain root :: more => (gap + 1 + (more.length - (dropSeparator more).length), some root)
  | _ => (gap, none)

/-- Reads the words of the command. `skip` words have been read together with the ones before
them. -/
def readWords (p : Progress) : (skip : Nat) → List (Word VerifyOption) → Except Ending Progress
  | _, [] => .ok p
  | skip + 1, _ :: rest => readWords p skip rest
  | 0, .unknown text :: rest => readWords (p.leave text) 0 rest
  | 0, .plain text :: rest =>
    if p.named then readWords (p.leave text) 0 rest
    else
      let (skip, root) := besideConnector rest
      readWords (p.name text root) skip rest
  | 0, .separator :: rest =>
    match p.named, rest with
    | false, .plain text :: more =>
      let (skip, root) := besideConnector more
      readWords (p.name text root) (skip + 1) rest
    | _, _ => readWords (p.leave "--") 0 rest
  | 0, .option f name attached _ :: rest => do
    let uses ← (Word.uses verifyOptions f name attached).mapError (.complaint verifyProgram)
    match uses.getLast?, rest with
    | some (last, none), .plain value :: _ =>
      if last.takesValue then
        let request ← p.request.setAll (uses.dropLast ++ [(last, some value)])
        readWords { p with request } 1 rest
      else
        let request ← p.request.setAll uses
        readWords { p with request } 0 rest
    | some (last, none), _ =>
      if last.takesValue then .error (.complaint verifyProgram (.valueMissing last.label))
      else
        let request ← p.request.setAll uses
        readWords { p with request } 0 rest
    | _, _ =>
      let request ← p.request.setAll uses
      readWords { p with request } 0 rest

/-- What the words after the command's name ask for, with the words that nobody asked for. -/
def ofVerifyWords (arguments : List String) : Except Ending (Request × List String) := do
  let words ← (Word.classify verifyOptions arguments).mapError (.complaint verifyProgram)
  let p ← readWords {} 0 words
  if p.named then return (p.request, p.leftOver)
  else .error (.complaint verifyProgram (.argumentMissing "connector"))

/-- The ending that an option of the program brings. -/
def endingOf (f : OptionForm ProgramOption) : Ending :=
  match f.key with
  | .help => .help
  | .version => .version

/-- Reads the words before the command's name, and with them all others. -/
def readProgramWords (leftOver : List String) : List (Word ProgramOption) → Except Ending Request
  | [] => .error (.complaint programName (.argumentMissing "command"))
  | .unknown text :: rest => readProgramWords (leftOver ++ [text]) rest
  | .option f name attached _ :: _ =>
    match Word.uses programOptions f name attached with
    | .error cause => .error (.complaint programName cause)
    | .ok uses => .error (endingOf ((uses.head?.map (·.1)).getD f))
  | .separator :: rest =>
    if rest.isEmpty then .error (.complaint programName (.argumentMissing "command"))
    else .error (.complaint programName (.unknownCommand "--" [verifyName]))
  | .plain text :: rest =>
    if text == verifyName then do
      let (request, more) ← ofVerifyWords (rest.map Word.text)
      if (leftOver ++ more).isEmpty then return request
      else .error (.complaint programName (.leftOver (leftOver ++ more)))
    else .error (.complaint programName (.unknownCommand text [verifyName]))

/-- What the words after the program's name ask for. -/
def ofArguments (arguments : List String) : Except Ending Request := do
  readProgramWords [] (← (Word.classify programOptions arguments).mapError (.complaint programName))

end Request

end ModuleAudit.Command
