/-
  Command lines.

  A command line is one of the words `dump`, `classify` and `generator`, the operand of the
  task, and options.  `--config` may stand anywhere, the options of `dump` after its word;
  the value of an option follows it or is joined to it by `=`.  After `--` every argument
  is an operand.  Every other argument that begins with `-` is refused, a lone `-` excepted.

  An option may be given once on either side of the task's word.  Only `--config` can stand
  on both, and then the one after the word, which is closer to the task, takes effect.

  `--help`, `-h` and, before the word of a task, `--version`, `-V` and the word `help` ask
  about the program.  What is in front of them has been judged by then, what follows them is
  not looked at, but for the names that `help` is about.
-/
import Spirv.Command

namespace Spirv.Command

/-! ## Arguments -/

/-- The shape of an argument. -/
inductive Argument where
  /-- `--` -/
  | separator
  /-- `--name` or `--name=value` -/
  | option (name : String) (value : Option String)
  /-- Any other argument that begins with `-`, by the letter behind it. -/
  | short (letter : Char)
  | word (text : String)
  deriving DecidableEq

/-- The characters before the first `=`, and those after it if there is one. -/
def splitValue : List Char → List Char × Option (List Char)
  | [] => ([], none)
  | c :: cs =>
    if c = '=' then ([], some cs)
    else
      let (name, value) := splitValue cs
      (c :: name, value)

/-- The shape of the argument. -/
def Argument.ofText (text : String) : Argument :=
  match text.toList with
  | ['-', '-'] => .separator
  | '-' :: '-' :: cs =>
    let (name, value) := splitValue cs
    .option (String.ofList name) (value.map String.ofList)
  | '-' :: letter :: _ => .short letter
  | _ => .word text

/-- The options of the program. -/
inductive Switch where
  /-- The file with the settings. -/
  | config
  /-- The byte order of the file to report on. -/
  | endian
  /-- That file has no module header. -/
  | noHeader
  /-- The report is wanted as JSON. -/
  | json
  deriving DecidableEq

/-- The tasks of the program. -/
inductive Task where
  | dump
  | classify
  | generator
  deriving DecidableEq

/-- The task with the given name, capitals and small letters kept apart. -/
def Task.ofName? (name : String) : Option Task :=
  if name = "dump" then some .dump
  else if name = "classify" then some .classify
  else if name = "generator" then some .generator
  else none

/-- The option with the given name where the task, if it is known yet, takes it. -/
def Switch.ofName? (task : Option Task) (name : String) : Option Switch :=
  if name = "config" then some .config
  else if task = some .dump then
    if name = "endian" then some .endian
    else if name = "no-header" then some .noHeader
    else if name = "json" then some .json
    else none
  else none

/-! ## Questions about the program -/

/-- Why a command line asks for no task. -/
inductive Halt where
  /-- It is invalid. -/
  | invalid
  /-- It asks how to use the program. -/
  | help
  /-- It asks for the version of the program. -/
  | version
  deriving DecidableEq

/-- What an option without a value comes to that is none of the task's. -/
def Halt.ofName (task : Option Task) (name : String) : Halt :=
  if name = "help" then .help
  else if name = "version" ∧ task = none then .version
  else .invalid

/-- What letters behind one hyphen come to; the first decides. -/
def Halt.ofLetter (task : Option Task) (letter : Char) : Halt :=
  if letter = 'h' then .help
  else if letter = 'V' ∧ task = none then .version
  else .invalid

/-- What a word comes to that is not wanted, with the arguments behind it: in the place of a
    task, `help` may be about the program, a task or itself. -/
def Halt.ofWord (task : Option Task) (text : String) (texts : List String) : Halt :=
  if task = none ∧ text = "help" then
    match texts with
    | [] => .help
    | [topic] => if topic = "help" ∨ (Task.ofName? topic).isSome then .help else .invalid
    | _ => .invalid
  else .invalid

/-! ## Gathering -/

/-- What the arguments have said so far. -/
structure Gathered where
  /-- The settings file given before the word of the task. -/
  outerConfig : Option String := none
  /-- The settings file given on the present side of that word. -/
  config : Option String := none
  task : Option Task := none
  operand : Option String := none
  order : Option ByteOrder := none
  noHeader : Bool := false
  json : Bool := false
  deriving DecidableEq

namespace Gathered

/-- Takes an option with its value, or without one.  An option that has been given on this
    side of the task's word, a value that is missing, superfluous or not accepted makes the
    command line invalid. -/
def take (g : Gathered) : Switch → Option String → Option Gathered
  | .config, some path =>
    if g.config.isSome || path.isEmpty then none else some { g with config := some path }
  | .endian, some name =>
    if g.order.isSome then none
    else (ByteOrder.ofName? name).map fun order => { g with order := some order }
  | .noHeader, none => if g.noHeader then none else some { g with noHeader := true }
  | .json, none => if g.json then none else some { g with json := true }
  | _, _ => none

/-- Takes an operand. -/
def takeOperand (g : Gathered) (text : String) : Option Gathered :=
  if g.task.isNone || g.operand.isSome then none else some { g with operand := some text }

/-- Begins the arguments of a task. -/
def enter (g : Gathered) (task : Task) : Gathered :=
  { g with task := some task, outerConfig := g.config, config := none }

/-- Takes a word: the name of the task first, then its operand. -/
def takeWord (g : Gathered) (text : String) : Option Gathered :=
  match g.task with
  | none => (Task.ofName? text).map g.enter
  | some _ => g.takeOperand text

/-- Takes the arguments after `--`. -/
def takeOperands (g : Gathered) : List String → Option Gathered
  | [] => some g
  | text :: texts =>
    match g.takeOperand text with
    | some g => g.takeOperands texts
    | none => none

/-- The settings file that takes effect. -/
def settingsFile (g : Gathered) : Option String :=
  g.config <|> g.outerConfig

end Gathered

/-- Whether the option needs a value. -/
def Switch.takesValue : Switch → Bool
  | config | endian => true
  | noHeader | json => false

/-- Takes the arguments in turn, up to the first that makes the command line invalid or asks
    about the program. -/
def gather (g : Gathered) : List String → Except Halt Gathered
  | [] => .ok g
  | text :: texts =>
    match Argument.ofText text with
    | .separator =>
      match g.takeOperands texts with
      | some g => .ok g
      | none => .error .invalid
    | .short letter => .error (.ofLetter g.task letter)
    | .word w =>
      match g.takeWord w with
      | some g => gather g texts
      | none => .error (.ofWord g.task w texts)
    | .option name value =>
      match Switch.ofName? g.task name with
      | none => .error (if value.isNone then .ofName g.task name else .invalid)
      | some switch =>
        if switch.takesValue && value.isNone then
          match texts with
          | [] => .error .invalid
          | next :: texts =>
            match Argument.ofText next with
            | .word w =>
              match g.take switch (some w) with
              | some g => gather g texts
              | none => .error .invalid
            | _ => .error .invalid
        else
          match g.take switch value with
          | some g => gather g texts
          | none => .error .invalid

/-- The invocation that the arguments amount to; a file must have a name. -/
def Gathered.invocation? (g : Gathered) : Option Invocation :=
  match g.task, g.operand with
  | some .dump, some file =>
    if file.isEmpty then none
    else some ⟨g.settingsFile, .dump file g.order g.noHeader g.json⟩
  | some .classify, some query => some ⟨g.settingsFile, .classify query⟩
  | some .generator, some query => some ⟨g.settingsFile, .generator query⟩
  | _, _ => none

/-- The invocation that a command line asks for, or why it asks for none. -/
def parseArguments (texts : List String) : Except Halt Invocation :=
  match gather {} texts with
  | .error halt => .error halt
  | .ok g =>
    match g.invocation? with
    | some inv => .ok inv
    | none => .error .invalid

end Spirv.Command
