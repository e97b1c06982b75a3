import FlowTypes.Text.Numeral

/-!
# Diagnostics

Messages to a user: errors and warnings with the lines of a file that they are about, and notes
that go with them.  They are written as plain text, or with the escape sequences that make a
terminal show their labels in colour.

## Main result

Errors are counted one by one (`countErrors_append`).
-/

namespace FlowTypes

/-- How serious a message is. -/
inductive Level
  | error
  | warning
  | note
  deriving DecidableEq, Repr, Inhabited

namespace Level

def label : Level → String
  | error => "error"
  | warning => "warning"
  | note => "note"

/-- The number of the colour of the label: red, yellow and green. -/
def colour : Level → String
  | error => "31"
  | warning => "33"
  | note => "32"

end Level

/-- A message to a user. -/
structure Diagnostic where
  level : Level
  /-- The file and the line that the message is about, counted from one. -/
  position : Option (String × Nat) := none
  message : String
  notes : List String := []
  deriving DecidableEq, Repr, Inhabited

/-- Whether labels are coloured. -/
inductive Colouring
  | plain
  | ansi
  deriving DecidableEq, Repr, Inhabited

namespace Diagnostic

/-- The escape sequence of a terminal with this code. -/
def escape (code : String) : String := "\x1b[" ++ code ++ "m"

/-- The label of a level with what surrounds it; bold, in colour, and back to normal. -/
def label (level : Level) : Colouring → String
  | .plain => level.label ++ ": "
  | .ansi =>
    escape "0" ++ escape "1" ++ escape level.colour ++ level.label ++ ": " ++ escape "0"

/-- The file and the line in front of a message. -/
def positionText : Option (String × Nat) → String
  | some (path, line) => "[" ++ path ++ ":" ++ String.ofList (Text.decimal line) ++ "] "
  | none => ""

/-- The text of a diagnostic: its own line and a line for each note. -/
def render (colouring : Colouring) (d : Diagnostic) : String :=
  let main := positionText d.position ++ label d.level colouring ++ d.message ++ "\n"
  d.notes.foldl (fun out note => out ++ label .note colouring ++ note ++ "\n") main

/-- How many of the diagnostics are errors. -/
def countErrors (ds : List Diagnostic) : Nat := ds.countP (·.level == .error)

theorem countErrors_append (ds es : List Diagnostic) :
    countErrors (ds ++ es) = countErrors ds + countErrors es :=
  List.countP_append

/-- What is said at the end when there were errors. -/
def abortText (errors : Nat) : String :=
  if errors = 1 then "aborting due to 1 previous error"
  else "aborting due to " ++ String.ofList (Text.decimal errors) ++ " previous errors"

/-- The error that ends a run which had errors before. -/
def abort (errors : Nat) : Diagnostic := { level := .error, message := abortText errors }

end Diagnostic

end FlowTypes
