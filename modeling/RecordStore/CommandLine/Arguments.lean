import RecordStore.AutoCommit
import RecordStore.CommandLine.Flag

/-!
# Arguments

The arguments of the program are read from left to right: flags, the command,
and then the flags and texts of the command.  A flag is written with its name
after two dashes, or with its letter after one; letters may share a dash.
The value of a flag follows an equals sign or the letter, or is the next
argument if that does not look like a flag.  After two dashes alone
everything is a text.

A flag stands at most once before the command and once after it, and the one
after it counts.
-/

namespace RecordStore.CommandLine

/-- Why arguments do not lead to a command that can run. -/
inductive Stop where
  | misuse
  | help
  | version (command : Option Command)
  deriving DecidableEq, Repr

/-- Flags and texts that have been read. -/
structure Given where
  values : List (Flag × String)
  texts : List String
  deriving DecidableEq, Repr

namespace Given

/-- Nothing has been read. -/
def empty : Given :=
  ⟨[], []⟩

/-- The value of a flag. -/
def value? (given : Given) (flag : Flag) : Option String :=
  given.values.lookup flag

/-- The flag is given. -/
def has (given : Given) (flag : Flag) : Bool :=
  (given.value? flag).isSome

/-- The value is one that the flag can have. -/
def accepts (flag : Flag) (value : String) : Bool :=
  match flag with
  | .settings => !value.isEmpty
  | .policy => (AutoCommit.read? value).isSome
  | _ => true

/-- Adds a text. -/
def addText (given : Given) (text : String) : Given :=
  { given with texts := given.texts ++ [text] }

/-- Adds a flag with its value. -/
def add
    (given : Given)
    (command : Option Command)
    (flag : Flag)
    (value : String) :
    Except Stop Given :=
  match flag with
  | .help => .error .help
  | .version => .error (.version command)
  | .verbose => .ok given
  | _ =>
      if given.has flag || !accepts flag value then
        .error .misuse
      else
        .ok { given with values := given.values ++ [(flag, value)] }

end Given

/-- The argument looks like a flag. -/
def isFlag (argument : String) : Bool :=
  argument.toList.head? == some '-' && argument != "-"

/-- The argument after which everything is a text. -/
def separator : String := "--"

/-- The part of a text before its first equals sign, and the part after it. -/
def splitValue (text : List Char) : List Char × Option (List Char) :=
  let name := text.takeWhile fun c => c ≠ '='
  match text.dropWhile fun c => c ≠ '=' with
  | [] => (name, none)
  | _ :: value => (name, some value)

/-- What reading an argument yields: the flags so far, and the flag that still needs a value. -/
abbrev Step := Given × Option Flag

/-- Reads a flag that is written with its name. -/
def readName
    (command : Option Command)
    (flags : List Flag)
    (text : List Char)
    (given : Given) :
    Except Stop Step :=
  let (name, value) := splitValue text
  match flags.find? fun flag => flag.name == String.ofList name with
  | none => .error .misuse
  | some flag =>
      match flag.takesValue, value with
      | true, none => .ok (given, some flag)
      | true, some value => do
          .ok (← given.add command flag (String.ofList value), none)
      | false, none => do .ok (← given.add command flag "", none)
      | false, some _ => .error .misuse

/-- Reads flags that are written with their letters. -/
def readLetters
    (command : Option Command)
    (flags : List Flag) :
    List Char → Given → Except Stop Step
  | [], given => .ok (given, none)
  | letter :: rest, given =>
      match flags.find? fun flag => flag.letter? == some letter with
      | none => .error .misuse
      | some flag =>
          if flag.takesValue then
            match rest with
            | [] => .ok (given, some flag)
            | first :: others =>
                let value := if first = '=' then others else first :: others
                do .ok (← given.add command flag (String.ofList value), none)
          else do
            let given ← given.add command flag ""
            readLetters command flags rest given

/-- Reads an argument that looks like a flag. -/
def readFlag
    (command : Option Command)
    (flags : List Flag)
    (argument : String)
    (given : Given) :
    Except Stop Step :=
  match argument.toList with
  | '-' :: '-' :: text => readName command flags text given
  | '-' :: letters => readLetters command flags letters given
  | _ => .error .misuse

/-- Reads the flags and the texts of a command. -/
def readAfter
    (command : Command)
    (given : Given) :
    List String → Except Stop Given
  | [] => .ok given
  | argument :: rest =>
      if argument = separator then
        if rest.isEmpty || command.takesTexts then
          .ok { given with texts := given.texts ++ rest }
        else
          .error .misuse
      else if isFlag argument then do
        match ← readFlag (some command) command.flags argument given with
        | (given, none) => readAfter command given rest
        | (given, some flag) =>
            match rest with
            | [] => .error .misuse
            | value :: later =>
                if isFlag value then
                  .error .misuse
                else do
                  let given ← given.add (some command) flag value
                  readAfter command given later
      else if command.takesTexts then
        readAfter command (given.addText argument) rest
      else
        .error .misuse

/-- A flag with a value that has not been checked. -/
abbrev Pending := Option (Flag × String)

/-- Adds a flag with the value that was left to be checked, if there is one. -/
def Given.settle (given : Given) (pending : Pending) : Except Stop Given :=
  match pending with
  | none => .ok given
  | some (flag, value) => given.add none flag value

/--
Reads the flags before the command; the arguments from the command on are
left.  A value that is an argument of its own is checked when the next flag
comes, and that of the last flag is left to be checked.
-/
def readBefore (given : Given) (pending : Pending) :
    List String → Except Stop (Given × Pending × List String)
  | [] => .ok (given, pending, [])
  | argument :: rest =>
      if argument = separator then
        .error .misuse
      else if isFlag argument then do
        let settled ← given.settle pending
        match ← readFlag none Flag.shared argument settled with
        | (given, none) => readBefore given none rest
        | (given, some flag) =>
            match rest with
            | [] => .error .misuse
            | value :: later =>
                if isFlag value then
                  .error .misuse
                else
                  readBefore given (some (flag, value)) later
      else
        .ok (given, pending, argument :: rest)

/-! ## Requests -/

/-- What a command is to do. -/
inductive Task where
  | get (filter : Option String)
  | put (fields : Option String) (policy : Option AutoCommit) (records : List String)
  | delete (filter : Option String)
  | count (filter : Option String)
  | sql (filter : Option String) (isRemoval : Bool)
  deriving DecidableEq, Repr

/-- What the program is asked to do. -/
structure Request where
  uri : Option String
  settings : Option String
  task : Task
  deriving DecidableEq, Repr

/-- The command that asks for help on other commands. -/
def helpName : String := "help"

/-- The task of a command with its flags and texts. -/
def taskOf (command : Command) (given : Given) : Except Stop Task :=
  let filter := given.value? .filter
  match command with
  | .get => .ok (.get filter)
  | .put =>
      .ok (.put (given.value? .fields) ((given.value? .policy).bind AutoCommit.read?)
        given.texts)
  | .delete =>
      if given.has .filter == given.has .all then .error .misuse else .ok (.delete filter)
  | .count => .ok (.count filter)
  | .sql => .ok (.sql filter (given.has .removal))

/-- The arguments after the command that asks for help name at most one command. -/
def isHelpTopic : List String → Bool
  | [] => true
  | [topic] => topic == helpName || (Command.ofName? topic).isSome
  | _ => false

/--
Reads the arguments of the program.  A value left from before the command is
checked after what belongs to the command.
-/
def Request.read (arguments : List String) : Except Stop Request := do
  match ← readBefore .empty none arguments with
  | (_, _, []) => .error .misuse
  | (before, pending, name :: rest) =>
      match Command.ofName? name with
      | none =>
          if name = helpName && isHelpTopic rest then .error .help else .error .misuse
      | some command => do
          let inner ← readAfter command .empty rest
          let outer ← before.settle pending
          let task ← taskOf command inner
          let choose (flag : Flag) : Option String :=
            inner.value? flag <|> outer.value? flag
          .ok
            { uri := choose .uri
              settings := choose .settings
              task := task }

end RecordStore.CommandLine
