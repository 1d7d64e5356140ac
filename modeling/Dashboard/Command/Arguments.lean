/-
  Dashboard.Command.Arguments
  ───────────────────────────
  From the words of a command line to the command they ask for.

  Options stand before or after the name of the command, those of all commands
  in either place, where the later place wins.  An option gives its value in
  the next word or after `=`; the next word must not look like an option.  No
  option stands twice in one place.  After `--` every word is an operand.
-/
import Dashboard.Decimal.Nearest

namespace Dashboard.Command

/-! ## §1. Commands. -/

/-- A command with its operands and options. -/
inductive Request where
  /-- Check a file against the schema. -/
  | validate (file : String) (strict : Bool)
  /-- Bring a file to the current schema version. -/
  | migrate (file : String) (out : Option String)
  /-- List the templates. -/
  | listTemplates
  /-- Start from a template. -/
  | init (template : String) (force : Bool)
  /-- Start from a file. -/
  | importFile (file : String)
  /-- Print the document, or write it into a directory. -/
  | exportDocument (directory : Option String)
  /-- Print the pages and the panels of one page. -/
  | showPage (page : Option String) (width : Float)
  /-- Add a panel. -/
  | add (widget : String) (page : Option String) (keepDraft : Bool)
  /-- List the widgets that can be added. -/
  | widgets (category search : Option String)
  /-- Poll the panels of a page once. -/
  | status (page baseUrl : Option String)

/-- A request and the files that all commands use. -/
structure Invocation where
  config : Option String
  state : Option String
  request : Request

/-! ## §2. Options. -/

/-- What an option is given. -/
inductive OptionValue where
  | nothing
  | text
  /-- A text that is not empty. -/
  | path
  | number
  deriving DecidableEq, Repr

/-- Whether a text can be the value of an option. -/
def OptionValue.accepts : OptionValue → String → Bool
  | .nothing, _ | .text, _ => true
  | .path, s => !s.isEmpty
  | .number, s => (Decimal.read? s).isSome

/-- An option by its name. -/
structure OptionSpec where
  name : String
  value : OptionValue
  deriving DecidableEq, Repr

/-- The options of all commands. -/
def sharedOptions : List OptionSpec :=
  [⟨"config", .path⟩, ⟨"state", .path⟩, ⟨"verbose", .nothing⟩]

/-- What stands in one place: options with their values, and operands. -/
structure Scanned where
  options : List (String × String)
  operands : List String

/-- Whether a word looks like an option: a hyphen alone does not. -/
def isOptionLike (word : String) : Bool :=
  match word.toList with
  | '-' :: _ :: _ => true
  | _ => false

/-- The option of a word, and the value after its `=`. -/
def option? (specs : List OptionSpec) (word : String) :
    Option (OptionSpec × Option String) :=
  match word.toList with
  | '-' :: '-' :: cs =>
    let name := String.ofList (cs.takeWhile (· ≠ '='))
    let value := match cs.dropWhile (· ≠ '=') with
      | _ :: value => some (String.ofList value)
      | [] => none
    (specs.find? fun o => o.name == name).map (·, value)
  | ['-', 'v'] => (specs.find? fun o => o.name == "verbose").map (·, none)
  | _ => none

/-- Add an option that is not there yet, with a value that it accepts. -/
def Scanned.withOption (s : Scanned) (o : OptionSpec) (value : String) : Option Scanned :=
  if o.value.accepts value && !s.options.any (fun p => p.1 == o.name) then
    some { s with options := (o.name, value) :: s.options }
  else none

/-- Read options up to the first word that is none; gives what follows them. -/
def scanOptions (specs : List OptionSpec) : List String → Scanned → Option (Scanned × List String)
  | [], s => some (s, [])
  | word :: rest, s =>
    if word = "--" ∨ !isOptionLike word then some (s, word :: rest)
    else
      match option? specs word with
      | none => none
      | some (o, some value) =>
        if o.value = .nothing then none
        else (s.withOption o value).bind fun s => scanOptions specs rest s
      | some (o, none) =>
        if o.value = .nothing then (s.withOption o "").bind fun s => scanOptions specs rest s
        else
          match rest with
          | value :: rest =>
            if isOptionLike value then none
            else (s.withOption o value).bind fun s => scanOptions specs rest s
          | [] => none

/-- Read options and operands in any order; there are at most as many operands
as given. -/
def scanAll (specs : List OptionSpec) : Nat → List String → Scanned → Option Scanned
  | 0, _, _ => none
  | more + 1, words, s =>
    match scanOptions specs words s with
    | none => none
    | some (s, []) => some s
    | some (s, word :: rest) =>
      if word = "--" then some { s with operands := s.operands ++ rest }
      else scanAll specs more rest { s with operands := s.operands ++ [word] }

/-- The value of an option. -/
def Scanned.get? (s : Scanned) (name : String) : Option String :=
  (s.options.find? fun p => p.1 == name).map (·.2)

/-- Whether an option stands there. -/
def Scanned.has (s : Scanned) (name : String) : Bool := (s.get? name).isSome

/-! ## §3. Requests. -/

/-- The names of the commands with their own options. -/
def commandOptions : List (String × List OptionSpec) :=
  [("validate", [⟨"strict", .nothing⟩]),
   ("migrate", [⟨"out", .path⟩]),
   ("init", [⟨"template", .text⟩, ⟨"force", .nothing⟩]),
   ("import", []),
   ("export", [⟨"out-dir", .path⟩]),
   ("show", [⟨"page", .text⟩, ⟨"width", .number⟩]),
   ("add", [⟨"page", .text⟩, ⟨"draft", .nothing⟩]),
   ("widgets", [⟨"category", .text⟩, ⟨"query", .text⟩]),
   ("status", [⟨"page", .text⟩, ⟨"base-url", .text⟩])]

/-- The width that a page is laid out in. -/
def standardWidth : Float := 1200.0

/-- A file operand. -/
def file? (s : String) : Option String := if s.isEmpty then none else some s

/-- The request of a command's name, operands and options. -/
def request? (name : String) (s : Scanned) : Option Request :=
  match name, s.operands with
  | "validate", [file] => (file? file).map fun f => .validate f (s.has "strict")
  | "migrate", [file] => (file? file).map fun f => .migrate f (s.get? "out")
  | "init", [] =>
    match s.get? "template" with
    | some template => some (.init template (s.has "force"))
    | none => some .listTemplates
  | "import", [file] => (file? file).map .importFile
  | "export", [] => some (.exportDocument (s.get? "out-dir"))
  | "show", [] =>
    some (.showPage (s.get? "page") (((s.get? "width").bind Decimal.read?).getD standardWidth))
  | "add", [widget] => some (.add widget (s.get? "page") (s.has "draft"))
  | "widgets", [] => some (.widgets (s.get? "category") (s.get? "query"))
  | "status", [] => some (.status (s.get? "page") (s.get? "base-url"))
  | _, _ => none

/-- What the words of a command line ask for. -/
def Invocation.ofArguments? (words : List String) : Option Invocation := do
  let (before, rest) ← scanOptions sharedOptions words ⟨[], []⟩
  match rest with
  | [] => none
  | name :: rest =>
    let own ← (commandOptions.find? fun p => p.1 == name).map (·.2)
    let after ← scanAll (sharedOptions ++ own) (rest.length + 1) rest ⟨[], []⟩
    let request ← request? name after
    pure ⟨(after.get? "config").or (before.get? "config"),
      (after.get? "state").or (before.get? "state"), request⟩

end Dashboard.Command
