import FlowTypes.Constraint
import FlowTypes.Trace.Literal

/-!
# Commands of a trace

A trace declares type sets and objects, connects them, feeds in what was seen at run time and asks
for answers.  Every line holds one command: a keyword and its arguments.

## Main results

The keywords differ (`Keyword.ofWord?_word`), and there are twenty-five of them
(`Keyword.length_all`).
-/

namespace FlowTypes.Trace

/-- The first word of a command. -/
inductive Keyword
  | set
  | object
  | array
  | function
  | native
  | add
  | subset
  | getProp
  | setProp
  | getElem
  | setElem
  | arith
  | filter
  | call
  | new
  | prop
  | assign
  | push
  | unknown
  | notPacked
  | tag
  | kind
  | nonEmpty
  | print
  | recompile
  deriving DecidableEq, Repr, Inhabited

namespace Keyword

def word : Keyword → String
  | set => "set"
  | object => "object"
  | array => "array"
  | function => "function"
  | native => "native"
  | add => "add"
  | subset => "subset"
  | getProp => "getprop"
  | setProp => "setprop"
  | getElem => "getelem"
  | setElem => "setelem"
  | arith => "arith"
  | filter => "filter"
  | call => "call"
  | new => "new"
  | prop => "prop"
  | assign => "assign"
  | push => "push"
  | unknown => "unknown"
  | notPacked => "notpacked"
  | tag => "tag"
  | kind => "kind"
  | nonEmpty => "nonempty"
  | print => "print"
  | recompile => "recompile"

/-- What a command with this keyword looks like. -/
def usage : Keyword → String
  | set => "set NAME"
  | object => "object NAME [proto OBJ]"
  | array => "array NAME"
  | function => "function NAME [script N] [nargs N]"
  | native => "native NAME [generic]"
  | add => "add SET TYPE"
  | subset => "subset SRC DST"
  | getProp => "getprop OBJSET PROP DST"
  | setProp => "setprop OBJSET PROP SRC"
  | getElem => "getelem OBJSET IDXSET DST"
  | setElem => "setelem OBJSET IDXSET SRC"
  | arith => "arith LHS [RHS] DST [numeric]"
  | filter => "filter SRC DST [nullvoid]"
  | call => "call CALLEE [ARGS...] [-> DST]"
  | new => "new CALLEE [ARGS...] [-> DST]"
  | prop => "prop OBJ PROP SET [own]"
  | assign => "assign OBJ PROP VALUE"
  | push => "push SCRIPT:OFFSET INDEX TYPE"
  | unknown => "unknown OBJ"
  | notPacked => "notpacked OBJ [dense]"
  | tag => "tag SET [SCRIPT]"
  | kind => "kind SET [SCRIPT]"
  | nonEmpty => "nonempty SET [SCRIPT]"
  | print => "print SET"
  | recompile => "recompile"

def all : List Keyword :=
  [set, object, array, function, native, add, subset, getProp, setProp, getElem, setElem, arith,
   filter, call, new, prop, assign, push, unknown, notPacked, tag, kind, nonEmpty, print, recompile]

def ofWord? (word : String) : Option Keyword := all.find? (·.word == word)

theorem length_all : all.length = 25 := rfl

theorem mem_all (k : Keyword) : k ∈ all := by cases k <;> decide

/-- A keyword is found by its word. -/
theorem ofWord?_word (k : Keyword) : ofWord? k.word = some k := by cases k <;> decide

end Keyword

/-- A command.  Sets, objects and keys are given by name. -/
inductive Command
  | set (name : String)
  | object (name : String) (proto : Option String)
  | array (name : String)
  | function (name : String) (script : Option Nat) (parameters : Nat)
  | native (name : String) (isGeneric : Bool)
  | add (set : String) (type : TypeRef)
  | subset (source target : String)
  | getProp (objects key target : String)
  | setProp (objects key source : String)
  | getElem (objects indexes target : String)
  | setElem (objects indexes source : String)
  | arith (lhs : String) (rhs : Option String) (target : String) (op : ArithOp)
  | filter (source target : String) (mode : FilterMode)
  | call (isNew : Bool) (callee : String) (arguments : List String) (target : Option String)
  | prop (object key set : String) (own : Bool)
  | assign (object key : String) (value : Literal)
  | push (script offset index : Nat) (type : TypeRef)
  | unknown (object : String)
  | notPacked (object : String) (dense : Bool)
  | tag (set : String) (script : Option Nat)
  | kind (set : String) (script : Option Nat)
  | nonEmpty (set : String) (script : Option Nat)
  | print (set : String)
  | recompile
  deriving DecidableEq, Repr, Inhabited

/-- Why a line is no command. -/
inductive ParseError
  | unknownCommand (word : String)
  /-- The arguments do not fit the keyword. -/
  | usage (keyword : Keyword)
  | invalidNumber (word : String)
  | invalidLocation (word : String)
  deriving DecidableEq, Repr, Inhabited

def ParseError.message : ParseError → String
  | unknownCommand word => "unknown command `" ++ word ++ "`"
  | usage k =>
    "wrong number of arguments for `" ++ k.word ++ "` (usage: " ++ k.usage ++ ")"
  | invalidNumber word => "invalid number `" ++ word ++ "`"
  | invalidLocation word =>
    "invalid bytecode location `" ++ word ++ "` (expected SCRIPT:OFFSET)"

end FlowTypes.Trace
