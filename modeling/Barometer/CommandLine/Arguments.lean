import Barometer.Sql.Token

/-!
# Arguments

A command with its file and options.  An option is written with its long name or its letter, and its
value follows in the same argument or in the next one; no option is given twice at one place.  What
does not fit is refused as a whole.
-/

namespace Barometer.CommandLine

inductive Format where
  | json
  | csv
deriving DecidableEq, Repr

/-- What to do, and with which file. -/
inductive Command where
  | compile (file : String) (dialect : Option Sql.Dialect)
  | run (file : String) (database period year : Option String)
  | report (file : String) (database : Option String) (format : Format)
deriving DecidableEq, Repr

/-- A command, and the file of settings if one is named. -/
structure Invocation where
  settings : Option String
  command : Command
deriving DecidableEq, Repr

/-- Why there is nothing to do. -/
inductive Stop where
  | misuse
  | version
  | help
deriving DecidableEq, Repr

/-- An option that takes a value. -/
structure Flag where
  name : String
  letter : Option Char
deriving DecidableEq, Repr

/-- An argument that was understood. -/
inductive Item where
  | option (name value : String)
  | word (text : String)
deriving DecidableEq, Repr

/-- Whether an argument can be the value of the option before it. -/
def isValue (arg : String) : Bool :=
  match arg.toList with
  | ['-'] => true
  | '-' :: _ => false
  | _ => true

/-- An option written with its long name, after the dashes. -/
def longOption (flags : List Flag) (body : List Char) (rest : List String) :
    Except Stop (Item × List String) :=
  let name := String.ofList (body.takeWhile (· != '='))
  match flags.find? fun flag ↦ flag.name = name with
  | none => .error (if body = "help".toList then .help else .misuse)
  | some flag =>
    match body.dropWhile (· != '='), rest with
    | _ :: value, rest => .ok (.option flag.name (String.ofList value), rest)
    | [], value :: rest =>
      if isValue value then .ok (.option flag.name value, rest) else .error .misuse
    | [], [] => .error .misuse

/-- An option written with its letter. -/
def shortOption (flags : List Flag) (letter : Char) (body : List Char) (rest : List String) :
    Except Stop (Item × List String) :=
  match flags.find? fun flag ↦ flag.letter = some letter with
  | none => .error (if letter = 'h' then .help else .misuse)
  | some flag =>
    match body, rest with
    | '=' :: value, rest => .ok (.option flag.name (String.ofList value), rest)
    | c :: value, rest => .ok (.option flag.name (String.ofList (c :: value)), rest)
    | [], value :: rest =>
      if isValue value then .ok (.option flag.name value, rest) else .error .misuse
    | [], [] => .error .misuse

/-- The first argument, which is not two dashes alone, and what follows it. -/
def next (flags : List Flag) (arg : String) (rest : List String) :
    Except Stop (Item × List String) :=
  match arg.toList with
  | '-' :: '-' :: body => longOption flags body rest
  | ['-'] => .ok (.word arg, rest)
  | '-' :: letter :: body => shortOption flags letter body rest
  | _ => .ok (.word arg, rest)

/-- All arguments; behind two dashes there are only words. -/
def items (flags : List Flag) : Nat → List String → Except Stop (List Item)
  | 0, _ => .ok []
  | _, [] => .ok []
  | fuel + 1, arg :: rest =>
    if arg = "--" then .ok (rest.map .word)
    else do
      let (item, after) ← next flags arg rest
      return item :: (← items flags fuel after)

def settingsFlag : Flag := { name := "config", letter := some 'c' }

/-- The value of an option, which must not be given twice. -/
def optionValue (given : List Item) (name : String) : Except Stop (Option String) :=
  match given.filterMap fun
      | .option other value => if other = name then some value else none
      | .word _ => none with
  | [] => .ok none
  | [value] => .ok (some value)
  | _ => .error .misuse

/-- The value of an option that is a path, which must not be empty. -/
def pathValue (given : List Item) (name : String) : Except Stop (Option String) := do
  let value ← optionValue given name
  if value = some "" then .error .misuse else return value

/-- The only word, which must not be empty. -/
def fileOf (given : List Item) : Except Stop String :=
  match given.filterMap fun
      | .word text => some text
      | .option _ _ => none with
  | [file] => if file.isEmpty then .error .misuse else .ok file
  | _ => .error .misuse

def dialectOf (value : Option String) : Except Stop (Option Sql.Dialect) :=
  match value with
  | none => .ok none
  | some name =>
    match [Sql.Dialect.postgres, .sqlite].find? fun d ↦ d.name = name with
    | some dialect => .ok (some dialect)
    | none => .error .misuse

def formatOf (value : Option String) : Except Stop Format :=
  match value with
  | none => .ok .json
  | some "json" => .ok .json
  | some "csv" => .ok .csv
  | some _ => .error .misuse

/-- The options of a command by its name. -/
def flagsOf? : String → Option (List Flag)
  | "compile" => some [{ name := "dialect", letter := some 'd' }]
  | "run" => some [{ name := "database", letter := none }, { name := "period", letter := none },
      { name := "year", letter := none }]
  | "report" => some [{ name := "database", letter := none },
      { name := "format", letter := some 'f' }]
  | _ => none

/-- The command of a name, from the arguments after it. -/
def commandOf (name : String) (given : List Item) : Except Stop Command := do
  match name with
  | "compile" => return .compile (← fileOf given) (← dialectOf (← optionValue given "dialect"))
  | "run" =>
    return .run (← fileOf given) (← pathValue given "database") (← optionValue given "period")
      (← optionValue given "year")
  | "report" =>
    return .report (← fileOf given) (← pathValue given "database")
      (← formatOf (← optionValue given "format"))
  | _ => .error .misuse

/-- The arguments from the name of the command on; `before` are the options that stand before it.
The file of settings can be named on either side, and behind counts. -/
def invocationOf (before : List Item) (name : String) (rest : List String) :
    Except Stop Invocation := do
  let some flags := flagsOf? name | .error (if name = "help" then .help else .misuse)
  let given ← items (settingsFlag :: flags) rest.length rest
  let command ← commandOf name given
  let outer ← pathValue before settingsFlag.name
  let inner ← pathValue given settingsFlag.name
  return { settings := inner.or outer, command }

/-- Whether an argument asks for the version. -/
def asksVersion (arg : String) : Bool :=
  arg = "--version" || ("-V".toList.isPrefixOf arg.toList)

/-- Reads the arguments; at most `fuel` options stand before the command. -/
def parseFrom : Nat → List Item → List String → Except Stop Invocation
  | 0, _, _ => .error .misuse
  | _, _, [] => .error .misuse
  | fuel + 1, before, arg :: rest =>
    if asksVersion arg then .error .version
    else if arg = "--" then .error .misuse
    else do
      match ← next [settingsFlag] arg rest with
      | (.word name, after) => invocationOf before name after
      | (item, after) => parseFrom fuel (before ++ [item]) after

def parse (args : List String) : Except Stop Invocation := parseFrom args.length [] args

end Barometer.CommandLine
