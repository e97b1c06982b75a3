import FlowTypes.Channel
import FlowTypes.Diagnostic
import FlowTypes.Stats

/-!
# The command line

What a user asks for when running a trace file: the file, the log channels, whether statistics are
shown, and when labels are coloured.

An option with a value takes the word behind it or what follows an equals sign in the same word.

## Main results

A flag is read wherever it stands (`readOn_stats`), and a channel by its name (`readOn_spew`).
-/

namespace FlowTypes

/-- When labels are coloured. -/
inductive ColourChoice
  /-- If the labels go to a terminal. -/
  | auto
  | always
  | never
  deriving DecidableEq, Repr, Inhabited

namespace ColourChoice

/-- The choice of that name, in any case of its letters. -/
def ofName? (name : String) : Option ColourChoice :=
  match String.ofList (name.toList.map Char.toLower) with
  | "auto" => some auto
  | "always" | "ansi" => some always
  | "never" => some never
  | _ => none

def colouring (choice : ColourChoice) (onTerminal : Bool) : Colouring :=
  match choice with
  | auto => if onTerminal then .ansi else .plain
  | always => .ansi
  | never => .plain

end ColourChoice

/-- What a user asks for. -/
structure CommandLine where
  path : Option String := none
  spew : Channels := {}
  stats : Bool := false
  colour : ColourChoice := .auto
  deriving DecidableEq, Repr, Inhabited

/-- Why the arguments make no sense. -/
inductive ArgumentError
  | unknownOption (word : String)
  | missingValue (option : String)
  | unknownChannel (name : String)
  | unknownColour (name : String)
  /-- There is a file already. -/
  | secondPath (path : String)
  | noPath
  deriving DecidableEq, Repr, Inhabited

def ArgumentError.message : ArgumentError → String
  | unknownOption word => "unknown option `" ++ word ++ "`"
  | missingValue option => "the option `" ++ option ++ "` needs a value"
  | unknownChannel name => Channels.unknownMessage name
  | unknownColour name =>
    "unknown color choice `" ++ name ++ "` (valid values: auto, always, ansi, never)"
  | secondPath path => "unexpected argument `" ++ path ++ "`"
  | noPath => "no trace file is given"

namespace CommandLine

/-- The line with the value of an option. -/
def setOption (c : CommandLine) (option value : String) : Except ArgumentError CommandLine :=
  match option with
  | "--spew" =>
    match Channels.ofList? value with
    | .ok spew => .ok { c with spew }
    | .error name => .error (.unknownChannel name)
  | "--color" =>
    match ColourChoice.ofName? value with
    | some colour => .ok { c with colour }
    | none => .error (.unknownColour value)
  | _ => .error (.unknownOption option)

/-- The options that have a value. -/
def takesValue (word : String) : Bool := word == "--spew" || word == "--color"

/-- The line with its file. -/
def setPath (c : CommandLine) (path : String) : Except ArgumentError CommandLine :=
  if path.toList.head? = some '-' then .error (.unknownOption path)
  else if c.path.isSome then .error (.secondPath path)
  else .ok { c with path := some path }

/-- Reads a word whose value, if it has one, is in the same word. -/
def readWord (c : CommandLine) (word : String) : Except ArgumentError CommandLine :=
  if word = "--stats" then .ok { c with stats := true }
  else if takesValue word then .error (.missingValue word)
  else match Text.cutAt? '=' word.toList with
    | some (option, value) =>
      if takesValue (String.ofList option) then
        c.setOption (String.ofList option) (String.ofList value)
      else c.setPath word
    | none => c.setPath word

/-- Reads arguments on from those that were read before them. -/
def readOn (c : CommandLine) : List String → Except ArgumentError CommandLine
  | [] => if c.path.isSome then .ok c else .error .noPath
  | word :: value :: rest =>
    if takesValue word then do
      let c ← c.setOption word value
      readOn c rest
    else do
      let c ← c.readWord word
      readOn c (value :: rest)
  | [word] => do
    let c ← c.readWord word
    if c.path.isSome then .ok c else .error .noPath

/-- Reads the arguments of the program. -/
def read (arguments : List String) : Except ArgumentError CommandLine := readOn {} arguments

/-- A flag is read wherever it stands. -/
theorem readOn_stats (c : CommandLine) (word : String) (rest : List String) :
    readOn c ("--stats" :: word :: rest) = readOn { c with stats := true } (word :: rest) := by
  simp [readOn, takesValue, readWord, bind, Except.bind]

/-- An option takes the word behind it. -/
theorem readOn_spew (c : CommandLine) (channel : Channel) (rest : List String) :
    readOn c ("--spew" :: channel.name :: rest) =
      readOn { c with spew := ({} : Channels).enable channel } rest := by
  simp [readOn, takesValue, setOption, Channels.ofList?_name, bind, Except.bind]

end CommandLine

/-- The lines of statistics that are shown at the end of a run. -/
def Stats.lines (s : Stats) : List String :=
  let number (n : Nat) : String := String.ofList (Text.decimal n)
  let counts := String.intercalate ", " (s.typeCounts.map number)
  ["recompilations: " ++ number s.recompilations,
   "pushed set sizes: [" ++ counts ++ "] (over: " ++ number s.typeCountOver ++ ")",
   "max solver depth: " ++ number s.maxSolverDepth,
   "failures: " ++ number s.failures]

end FlowTypes
