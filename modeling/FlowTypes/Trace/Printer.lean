import FlowTypes.Trace.Command

/-!
# Writing commands

A command is written as its words with single spaces between them.  Optional parts are written only
where they say something, and numbers are written in decimal.
-/

namespace FlowTypes.Trace

def number (n : Nat) : String := String.ofList (Text.decimal n)

/-- An optional word at the end of a command. -/
def option (present : Bool) (word : String) : List String :=
  if present then [word] else []

namespace Command

def keyword : Command → Keyword
  | set .. => .set
  | object .. => .object
  | array .. => .array
  | function .. => .function
  | native .. => .native
  | add .. => .add
  | subset .. => .subset
  | getProp .. => .getProp
  | setProp .. => .setProp
  | getElem .. => .getElem
  | setElem .. => .setElem
  | arith .. => .arith
  | filter .. => .filter
  | call isNew .. => if isNew then .new else .call
  | prop .. => .prop
  | assign .. => .assign
  | push .. => .push
  | unknown .. => .unknown
  | notPacked .. => .notPacked
  | tag .. => .tag
  | kind .. => .kind
  | nonEmpty .. => .nonEmpty
  | print .. => .print
  | recompile => .recompile

/-- The words behind the keyword. -/
def arguments : Command → List String
  | set name => [name]
  | object name proto => name :: proto.toList.flatMap fun p => ["proto", p]
  | array name => [name]
  | function name script parameters =>
    name :: script.toList.flatMap (fun s => ["script", number s]) ++
      if parameters = 0 then [] else ["nargs", number parameters]
  | native name isGeneric => name :: option isGeneric "generic"
  | add target type => [target, type.word]
  | subset source target => [source, target]
  | getProp objects key target => [objects, key, target]
  | setProp objects key source => [objects, key, source]
  | getElem objects indexes target => [objects, indexes, target]
  | setElem objects indexes source => [objects, indexes, source]
  | arith lhs rhs target op => lhs :: rhs.toList ++ target :: option (op = .numeric) "numeric"
  | filter source target mode => source :: target :: option (mode = .nullOrUndefined) "nullvoid"
  | call _ callee arguments target =>
    callee :: arguments ++ target.toList.flatMap fun t => ["->", t]
  | prop owner key target own => owner :: key :: target :: option own "own"
  | assign owner key value => [owner, key, value.word]
  | push script offset index type =>
    [number script ++ ":" ++ number offset, number index, type.word]
  | unknown name => [name]
  | notPacked name dense => name :: option dense "dense"
  | tag name script => name :: script.toList.map number
  | kind name script => name :: script.toList.map number
  | nonEmpty name script => name :: script.toList.map number
  | print name => [name]
  | recompile => []

/-- The line of a command. -/
def line (c : Command) : String :=
  String.intercalate " " (c.keyword.word :: c.arguments)

end Command

end FlowTypes.Trace
