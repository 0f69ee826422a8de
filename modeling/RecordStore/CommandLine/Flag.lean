/-!
# Commands and flags

The commands of the program and the flags that they take.  Some flags belong
to every command and may also stand before it.
-/

namespace RecordStore.CommandLine

/-- The flags of the program. -/
inductive Flag where
  | uri
  | settings
  | verbose
  | filter
  | fields
  | policy
  | all
  | removal
  | help
  | version
  deriving DecidableEq, Repr

namespace Flag

/-- The name after two dashes. -/
def name : Flag → String
  | uri => "uri"
  | settings => "config"
  | verbose => "verbose"
  | filter => "where"
  | fields => "fields"
  | policy => "autocommit"
  | all => "all"
  | removal => "delete"
  | help => "help"
  | version => "version"

/-- The letter after one dash, for the flags that have one. -/
def letter? : Flag → Option Char
  | uri => some 'u'
  | settings => some 'c'
  | verbose => some 'v'
  | filter => some 'w'
  | fields => some 'f'
  | policy => some 'a'
  | all => none
  | removal => none
  | help => some 'h'
  | version => some 'V'

/-- The flag comes with a value. -/
def takesValue : Flag → Bool
  | uri => true
  | settings => true
  | filter => true
  | fields => true
  | policy => true
  | _ => false

/-- The flags of every command. -/
def shared : List Flag :=
  [uri, settings, verbose, help, version]

end Flag

/-- The commands of the program. -/
inductive Command where
  | get
  | put
  | delete
  | count
  | sql
  deriving DecidableEq, Repr

namespace Command

/-- All commands. -/
def all : List Command :=
  [get, put, delete, count, sql]

/-- The name of a command. -/
def name : Command → String
  | get => "get"
  | put => "put"
  | delete => "delete"
  | count => "count"
  | sql => "sql"

/-- The command with a name. -/
def ofName? (name : String) : Option Command :=
  all.find? fun command => command.name == name

/-- The flags of a command. -/
def flags : Command → List Flag
  | get => .filter :: Flag.shared
  | put => .fields :: .policy :: Flag.shared
  | delete => .filter :: .all :: Flag.shared
  | count => .filter :: Flag.shared
  | sql => .filter :: .removal :: Flag.shared

/-- The command works on texts that stand after it. -/
def takesTexts : Command → Bool
  | put => true
  | _ => false

end Command

end RecordStore.CommandLine
