import FlowTypes.Text.Blank
import FlowTypes.Trace.Command

/-!
# Reading commands

A line is cut at its first comment sign and then into words.  Optional arguments are told by their
words and their places, so that any word may also be a name.

## Main results

A line without words holds no command (`readLine_of_no_words`), and a line whose first word is no
keyword is refused for this word (`readLine_of_unknown`).
-/

namespace FlowTypes.Trace

/-- Numbers of scripts, offsets and places on the stack are below this bound. -/
def wordBound : Nat := UInt32.size

/-- Numbers of parameters are below this bound. -/
def countBound : Nat := UInt64.size

/-- Reads a number below a bound. -/
def readNumber (bound : Nat) (word : String) : Except ParseError Nat :=
  match Text.readNat? bound word.toList with
  | some n => .ok n
  | none => .error (.invalidNumber word)

/-- Reads the number of a script, which may have a hash sign in front. -/
def readScript (word : String) : Except ParseError Nat :=
  match word.toList with
  | '#' :: cs => readNumber wordBound (String.ofList cs)
  | _ => readNumber wordBound word

/-- Reads a script and an offset with a colon between them. -/
def readLocation (word : String) : Except ParseError (Nat × Nat) :=
  match Text.cutAt? ':' word.toList with
  | some (script, offset) => do
    let script ← readScript (String.ofList script)
    let offset ← readNumber wordBound (String.ofList offset)
    return (script, offset)
  | none => .error (.invalidLocation word)

/-- Reads the options of a function, of which the last ones count. -/
def readOptions (script : Option Nat) (parameters : Nat) :
    List String → Except ParseError (Option Nat × Nat)
  | [] => .ok (script, parameters)
  | "script" :: word :: rest => do
    let n ← readNumber wordBound word
    readOptions (some n) parameters rest
  | "nargs" :: word :: rest => do
    let n ← readNumber countBound word
    readOptions script n rest
  | _ => .error (.usage .function)

/-- Takes the word `numeric` off the end of the arguments. -/
def splitNumeric (arguments : List String) : List String × ArithOp :=
  match arguments.reverse with
  | "numeric" :: rest => (rest.reverse, .numeric)
  | _ => (arguments, .add)

/-- Takes the target of a result, with the arrow in front of it, off the end of the arguments. -/
def splitTarget (arguments : List String) : List String × Option String :=
  match arguments.reverse with
  | target :: "->" :: rest => (rest.reverse, some target)
  | _ => (arguments, none)

/-- Reads the arguments of an operation. -/
def readArith (arguments : List String) : Except ParseError Command :=
  match splitNumeric arguments with
  | ([lhs, target], op) => .ok (.arith lhs none target op)
  | ([lhs, rhs, target], op) => .ok (.arith lhs (some rhs) target op)
  | _ => .error (.usage .arith)

/-- Reads the arguments of a call; the arrow is no argument. -/
def readCall (isNew : Bool) (arguments : List String) : Except ParseError Command :=
  match splitTarget arguments with
  | (callee :: arguments, target) =>
    if arguments.contains "->" then .error (.usage (if isNew then .new else .call))
    else .ok (.call isNew callee arguments target)
  | ([], _) => .error (.usage (if isNew then .new else .call))

/-- Reads the arguments of a command. -/
def readArguments : Keyword → List String → Except ParseError Command
  | .set, [name] => .ok (.set name)
  | .object, [name] => .ok (.object name none)
  | .object, [name, "proto", proto] => .ok (.object name (some proto))
  | .array, [name] => .ok (.array name)
  | .function, name :: options => do
    let (script, parameters) ← readOptions none 0 options
    return .function name script parameters
  | .native, [name] => .ok (.native name false)
  | .native, [name, "generic"] => .ok (.native name true)
  | .add, [set, type] => .ok (.add set (.ofWord type))
  | .subset, [source, target] => .ok (.subset source target)
  | .getProp, [objects, key, target] => .ok (.getProp objects key target)
  | .setProp, [objects, key, source] => .ok (.setProp objects key source)
  | .getElem, [objects, indexes, target] => .ok (.getElem objects indexes target)
  | .setElem, [objects, indexes, source] => .ok (.setElem objects indexes source)
  | .arith, arguments => readArith arguments
  | .filter, [source, target] => .ok (.filter source target .primitives)
  | .filter, [source, target, "nullvoid"] => .ok (.filter source target .nullOrUndefined)
  | .call, arguments => readCall false arguments
  | .new, arguments => readCall true arguments
  | .prop, [object, key, set] => .ok (.prop object key set false)
  | .prop, [object, key, set, "own"] => .ok (.prop object key set true)
  | .assign, [object, key, value] => .ok (.assign object key (.ofWord value))
  | .push, [location, index, type] => do
    let (script, offset) ← readLocation location
    let index ← readNumber wordBound index
    return .push script offset index (.ofWord type)
  | .unknown, [object] => .ok (.unknown object)
  | .notPacked, [object] => .ok (.notPacked object false)
  | .notPacked, [object, "dense"] => .ok (.notPacked object true)
  | .tag, [set] => .ok (.tag set none)
  | .tag, [set, script] => do return .tag set (some (← readScript script))
  | .kind, [set] => .ok (.kind set none)
  | .kind, [set, script] => do return .kind set (some (← readScript script))
  | .nonEmpty, [set] => .ok (.nonEmpty set none)
  | .nonEmpty, [set, script] => do return .nonEmpty set (some (← readScript script))
  | .print, [set] => .ok (.print set)
  | .recompile, [] => .ok .recompile
  | keyword, _ => .error (.usage keyword)

/-- Reads a command from its words. -/
def readWords : List String → Except ParseError (Option Command)
  | [] => .ok none
  | word :: arguments =>
    match Keyword.ofWord? word with
    | some keyword => (readArguments keyword arguments).map some
    | none => .error (.unknownCommand word)

/-- A line up to its comment. -/
def cutComment : List Char → List Char
  | [] => []
  | '/' :: '/' :: _ => []
  | c :: cs => c :: cutComment cs

/-- The words of a line in front of its comment. -/
def lineWords (line : List Char) : List String :=
  (Text.words (cutComment line)).map String.ofList

/-- Reads a line; without words in front of a comment it holds no command. -/
def readLine (line : List Char) : Except ParseError (Option Command) :=
  readWords (lineWords line)

theorem readLine_of_no_words {line : List Char} (h : lineWords line = []) :
    readLine line = .ok none := by
  rw [readLine, h, readWords]

theorem readLine_of_unknown {line : List Char} {word : String} {rest : List String}
    (h : lineWords line = word :: rest) (hw : Keyword.ofWord? word = none) :
    readLine line = .error (.unknownCommand word) := by
  rw [readLine, h, readWords, hw]

end FlowTypes.Trace
