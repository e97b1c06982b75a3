import FlowTypes.Diagnostic
import FlowTypes.Text.Lines
import FlowTypes.Trace.Reader
import FlowTypes.Trace.Replay

/-!
# Running a trace

A trace is read as a whole before anything is carried out, and every line that is no command is
reported.  If all are, they are replayed.

## Main results

A line that is no command keeps the trace from running, and there is one diagnostic for each such
line (`run_of_problems`).  Otherwise the commands are replayed (`run_of_no_problems`).
-/

namespace FlowTypes.Trace

/-- What a text holds: the lines that are no commands, and the commands with their lines. -/
structure Script where
  problems : List (Nat × ParseError) := []
  commands : List (Nat × Command) := []
  deriving DecidableEq, Repr, Inhabited

/-- Reads lines, of which the first one has this number. -/
def readLines (number : Nat) : List (List Char) → Script
  | [] => {}
  | line :: rest =>
    let script := readLines (number + 1) rest
    match readLine line with
    | .ok none => script
    | .ok (some command) => { script with commands := (number, command) :: script.commands }
    | .error e => { script with problems := (number, e) :: script.problems }

/-- Reads a text; its lines are counted from one. -/
def read (source : String) : Script := readLines 1 (Text.lines source.toList)

/-- What came of a run. -/
structure Outcome where
  compartment : Compartment
  /-- How many errors were reported, if the run failed. -/
  failure : Option Nat := none
  /-- The lines that were printed, in order. -/
  printed : List String := []
  /-- What was reported, in order. -/
  diagnostics : List Diagnostic := []
  deriving DecidableEq, Repr, Inhabited

/-- The answer of a run: the compartment, or the number of errors that were reported. -/
def Outcome.result (o : Outcome) : Except Nat Compartment :=
  match o.failure with
  | none => .ok o.compartment
  | some errors => .error errors

/-- A run that failed after it had reported these diagnostics. -/
def failed (compartment : Compartment) (printed : List String) (diagnostics : List Diagnostic) :
    Outcome :=
  { compartment, failure := some (Diagnostic.countErrors diagnostics), printed, diagnostics }

/-- An error about a line of a file. -/
def lineError (path : String) (line : Nat) (message : String) : Diagnostic :=
  { level := .error, position := some (path, line), message }

theorem countErrors_lineErrors {α : Type} (path : String) (line : α → Nat) (message : α → String)
    (xs : List α) :
    Diagnostic.countErrors (xs.map fun x => lineError path (line x) (message x)) = xs.length := by
  rw [Diagnostic.countErrors, List.countP_map]
  exact List.countP_eq_length.mpr fun _ _ => rfl

/-- Runs a trace; the path is only shown in diagnostics. -/
def run (path : String) (options : Options) (source : String) : Outcome :=
  let script := read source
  let reported := script.problems.map fun (line, e) => lineError path line e.message
  if Diagnostic.countErrors reported > 0 then
    failed (Compartment.fresh options) [] reported
  else
    match replay script.commands (Replay.start options) with
    | (none, r) => { compartment := r.compartment, printed := r.printed.reverse }
    | (some (line, e), r) =>
      failed r.compartment r.printed.reverse [lineError path line e.message]

theorem run_of_problems (path : String) (options : Options) {source : String}
    (h : (read source).problems ≠ []) :
    run path options source =
      failed (Compartment.fresh options) []
        ((read source).problems.map fun p => lineError path p.1 p.2.message) := by
  have : 0 < (read source).problems.length := List.length_pos_iff.mpr h
  simp only [run, countErrors_lineErrors, gt_iff_lt, this, if_true]

theorem run_of_no_problems {path : String} {options : Options} {source : String}
    (h : (read source).problems = []) :
    run path options source =
      match replay (read source).commands (Replay.start options) with
      | (none, r) => { compartment := r.compartment, printed := r.printed.reverse }
      | (some (line, e), r) =>
        failed r.compartment r.printed.reverse [lineError path line e.message] := by
  simp only [run, h, List.map_nil, show Diagnostic.countErrors [] = 0 from rfl, gt_iff_lt,
    Nat.lt_irrefl, if_false]

/-! ## Files -/

/-- Why a file could not be read. -/
inductive ReadFailure
  | missing
  | invalidText
  /-- Any other reason, in the words of the system. -/
  | other (reason : String)
  deriving DecidableEq, Repr, Inhabited

def ReadFailure.message : ReadFailure → String
  | missing => "No such file or directory (os error 2)"
  | invalidText => "stream did not contain valid UTF-8"
  | other reason => reason

/-- The text of a file with these bytes. -/
def decodeFile (bytes : ByteArray) : Except ReadFailure String :=
  match String.fromUTF8? bytes with
  | some source => .ok source
  | none => .error .invalidText

/-- Runs the trace of a file, if the file can be read. -/
def runFile (path : String) (options : Options) : Except ReadFailure String → Outcome
  | .ok source => run path options source
  | .error e =>
    failed (Compartment.fresh options) [] [
      { level := .error
        message := "Could not read trace file `" ++ path ++ "`: " ++ e.message }]

end FlowTypes.Trace
