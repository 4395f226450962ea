/-!
What a command line asks for. Options may stand anywhere among the words of their level: in front of
the command or behind it. Behind two dashes everything is a word.
-/

namespace BundleBinding.CommandLine

inductive Command where
  | check (program : String)
  | generate (program directory : String)
  | invoke (program service method : String) (arguments : List String)
  deriving Repr, DecidableEq

inductive Request where
  | run (config : Option String) (command : Command)
  | version
  | help
  | misuse
  deriving Repr, DecidableEq

inductive Switch where
  | config
  | quiet
  | directory
  | version
  | help
  deriving Repr, DecidableEq

namespace Switch

/-- Switches are known by a word, and some by a letter. -/
def word : Switch → String
  | config => "config"
  | quiet => "quiet"
  | directory => "out"
  | version => "version"
  | help => "help"

def letter? : Switch → Option Char
  | config => none
  | quiet => some 'q'
  | directory => some 'o'
  | version => some 'V'
  | help => some 'h'

def takesPath : Switch → Bool
  | config => true
  | directory => true
  | _ => false

end Switch

/-- What has been read on one level. -/
structure Level where
  switches : List Switch
  paths : List (Switch × String)
  words : List String
  deriving Repr

namespace Level

def empty : Level :=
  ⟨[], [], []⟩

def path? (level : Level) (switch : Switch) : Option String :=
  level.paths.lookup switch

end Level

inductive Stop where
  | version
  | help
  | misuse
  deriving Repr, DecidableEq

namespace Stop

def request : Stop → Request
  | version => .version
  | help => .help
  | misuse => .misuse

end Stop

namespace Level

def turnOn (level : Level) (switch : Switch) : Except Stop Level :=
  match switch with
  | .version => throw .version
  | .help => throw .help
  | _ =>
      if switch ∈ level.switches then throw .misuse
      else pure { level with switches := switch :: level.switches }

def setPath (level : Level) (switch : Switch) (path : String) : Except Stop Level :=
  if path.isEmpty || (level.path? switch).isSome then throw .misuse
  else pure { level with paths := (switch, path) :: level.paths }

/-- What a group of letters leaves to be done: nothing, or to find the path of the last switch. -/
def addLetters (known : List Switch) (level : Level) :
    List Char → Except Stop (Level × Option Switch)
  | [] => pure (level, none)
  | letter :: letters =>
      match known.find? fun switch => switch.letter? == some letter with
      | none => throw .misuse
      | some switch =>
          if switch.takesPath then
            match letters with
            | [] => pure (level, some switch)
            | '=' :: path => return (← level.setPath switch (String.ofList path), none)
            | path => return (← level.setPath switch (String.ofList path), none)
          else do
            addLetters known (← level.turnOn switch) letters

/-- The name and the value of a long option, which are joined by an equals sign. -/
def splitOption (option : List Char) : String × Option String :=
  let name := option.takeWhile (· != '=')
  match option.drop name.length with
  | [] => (String.ofList name, none)
  | _ :: value => (String.ofList name, some (String.ofList value))

def addOption (known : List Switch) (level : Level) (option : List Char) :
    Except Stop (Level × Option Switch) :=
  let (name, value) := splitOption option
  match known.find? fun switch => switch.word == name with
  | none => throw .misuse
  | some switch =>
      match switch.takesPath, value with
      | true, some path => return (← level.setPath switch path, none)
      | true, none => pure (level, some switch)
      | false, some _ => throw .misuse
      | false, none => return (← level.turnOn switch, none)

/-- Options begin with a dash, but a dash alone is a word. -/
def isWord (argument : String) : Bool :=
  !argument.startsWith "-" || argument == "-"

/-- Reads the arguments of a level. On the level above the commands, the first word ends it and
remains with what follows. -/
def read (known : List Switch) (outer : Bool) (level : Level) :
    List String → Except Stop (Level × List String)
  | [] => pure (level, [])
  | argument :: rest =>
      if isWord argument then
        if outer then pure (level, argument :: rest)
        else read known outer { level with words := level.words ++ [argument] } rest
      else if argument == "--" then
        if outer then throw .misuse
        else pure ({ level with words := level.words ++ rest }, [])
      else do
        let (level, pending) ←
          match argument.toList with
          | '-' :: '-' :: option => addOption known level option
          | letters => addLetters known level (letters.drop 1)
        match pending with
        | none => read known outer level rest
        | some switch =>
            match rest with
            | [] => throw .misuse
            | path :: rest =>
                if isWord path then read known outer (← level.setPath switch path) rest
                else throw .misuse

end Level

def defaultDirectory : String :=
  "generated"

/-- The command of a name, with the words and switches behind it. Paths are never empty. -/
def command? (name : String) (level : Level) : Option Command :=
  match name, level.words with
  | "check", [program] => if program.isEmpty then none else some (.check program)
  | "generate", [program] =>
      let directory := (level.path? .directory).getD defaultDirectory
      if program.isEmpty then none else some (.generate program directory)
  | "invoke", program :: service :: method :: arguments =>
      if program.isEmpty then none else some (.invoke program service method arguments)
  | _, _ => none

def switchesOf (name : String) : List Switch :=
  if name == "generate" then [.config, .quiet, .directory, .help] else [.config, .quiet, .help]

namespace Request

def read (arguments : List String) : Except Stop Request := do
  let (outer, rest) ← Level.empty.read [.config, .quiet, .version, .help] true arguments
  match rest with
  | [] => throw .misuse
  | "help" :: _ => throw .help
  | name :: rest =>
      if name ∉ ["check", "generate", "invoke"] then throw .misuse
      let (inner, _) ← Level.empty.read (switchesOf name) false rest
      match command? name inner with
      | some command => return .run ((inner.path? .config).or (outer.path? .config)) command
      | none => throw .misuse

/-- The request of a command line. Of a path given in front of the command and another behind it,
the latter counts. -/
def ofArguments (arguments : List String) : Request :=
  match read arguments with
  | .ok request => request
  | .error stop => stop.request

end Request

end BundleBinding.CommandLine
