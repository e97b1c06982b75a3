import FlowTypes.Text.Blank

/-!
# Log channels

The engine reports what it does on three channels, which the host enables by a list of names.

## Main result

The name of a channel enables exactly this channel (`ofList?_name`).
-/

namespace FlowTypes

/-- A channel of the log. -/
inductive Channel
  /-- Types seen at run time, and what follows from them. -/
  | dynamic
  /-- New constraints and types. -/
  | ops
  /-- The final type sets. -/
  | result
  deriving DecidableEq, Repr, Inhabited

namespace Channel

def all : List Channel := [dynamic, ops, result]

def name : Channel → String
  | dynamic => "dynamic"
  | ops => "ops"
  | result => "result"

/-- The name under which the messages of the channel are filed. -/
def target (c : Channel) : String := "typeflow::" ++ c.name

/-- The level of the messages, as a filter names it. -/
def level : Channel → String
  | dynamic => "debug"
  | ops => "trace"
  | result => "info"

/-- The level of the messages, as a log line names it. -/
def label : Channel → String
  | dynamic => "DEBUG"
  | ops => "TRACE"
  | result => "INFO"

end Channel

/-- A set of enabled channels. -/
structure Channels where
  dynamic : Bool := false
  ops : Bool := false
  result : Bool := false
  deriving DecidableEq, Repr, Inhabited

namespace Channels

def all : Channels := ⟨true, true, true⟩

def has (cs : Channels) : Channel → Bool
  | .dynamic => cs.dynamic
  | .ops => cs.ops
  | .result => cs.result

def enable (cs : Channels) : Channel → Channels
  | .dynamic => { cs with dynamic := true }
  | .ops => { cs with ops := true }
  | .result => { cs with result := true }

/-- The enabled channels, in their fixed order. -/
def toList (cs : Channels) : List Channel := Channel.all.filter cs.has

def isEmpty (cs : Channels) : Bool := cs.toList.isEmpty

/-- A filter that lets through exactly the messages of these channels. -/
def filter (cs : Channels) : String :=
  if cs.isEmpty then "off"
  else String.intercalate "," (cs.toList.map fun c => c.target ++ "=" ++ c.level)

/-- The letters of ASCII in lower case. -/
private def lowerAscii (s : String) : List Char := s.toList.map Char.toLower

/-- Enables what one name of a list stands for: a channel in any case of its letters, or all
channels by the word `full`. -/
def enableName (cs : Channels) (name : String) : Except String Channels :=
  if name = "full" then .ok all
  else match Channel.all.find? fun c => lowerAscii c.name == lowerAscii name with
    | some c => .ok (cs.enable c)
    | none => .error name

/-- Reads a list of channel names with commas between them; empty places are skipped.  A name that
stands for no channel is the error. -/
def ofList? (list : String) : Except String Channels :=
  let names := ((Text.splitAt ',' list.toList).map Text.trim).filter (!·.isEmpty)
  names.foldlM (fun cs name => cs.enableName (String.ofList name)) {}

/-- The message for a name that stands for no channel. -/
def unknownMessage (name : String) : String :=
  "unknown spew channel `" ++ name ++ "` (valid values: dynamic, ops, result, full)"

theorem ofList?_name (c : Channel) : ofList? c.name = .ok (({} : Channels).enable c) := by
  cases c <;> rfl

end Channels

end FlowTypes
