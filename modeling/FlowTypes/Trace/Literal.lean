import FlowTypes.Decimal.Reading
import FlowTypes.Value

/-!
# Types and values in a trace

A single word of a trace stands for a type or for a value.  What is no other type or value is the
name of an object.

## Main results

A type is read back from the word that stands for it (`TypeRef.ofWord_word`).
-/

namespace FlowTypes.Trace

/-- A type in a trace. -/
inductive TypeRef
  /-- A type that is no object. -/
  | plain (type : Ty)
  | object (name : String)
  deriving DecidableEq, Repr, Inhabited

namespace TypeRef

def ofWord (word : String) : TypeRef :=
  match Ty.ofName? word with
  | some t => plain t
  | none => object word

/-- The word that stands for the type. -/
def word : TypeRef → String
  | plain t => t.name?.getD ""
  | object name => name

/-- A type that was read from a word is read from its own word too. -/
theorem ofWord_word (w : String) : ofWord (ofWord w).word = ofWord w := by
  cases h : Ty.ofName? w with
  | none => simp [ofWord, word, h]
  | some t =>
    have name : t.name? = some w := by simpa using List.find?_some h
    simp [ofWord, word, h, name]

end TypeRef

/-- A value in a trace. -/
inductive Literal
  | undefined
  | null
  | boolean (value : Bool)
  | int32 (value : Int)
  | double (value : Binary64)
  | string (value : String)
  | magic
  | object (name : String)
  deriving DecidableEq, Repr, Inhabited

namespace Literal

/-- The words that stand for one value each. -/
def keyword? : String → Option Literal
  | "undefined" => some undefined
  | "null" => some null
  | "true" => some (boolean true)
  | "false" => some (boolean false)
  | "magic" => some magic
  | _ => none

/-- The text between two double quotes. -/
def quoted? : List Char → Option (List Char)
  | '"' :: cs =>
    match cs.getLast? with
    | some '"' => some cs.dropLast
    | _ => none
  | _ => none

/-- A double starts with a digit or a minus sign, so that names such as `inf` are left to
objects. -/
def double? (cs : List Char) : Option Binary64 :=
  match cs with
  | c :: _ => if c.isDigit || c == '-' then Binary64.read? cs else none
  | [] => none

/-- The value that a word stands for. -/
def ofWord (word : String) : Literal :=
  let cs := word.toList
  match keyword? word, quoted? cs, Text.readInt32? cs, double? cs with
  | some literal, _, _, _ => literal
  | _, some text, _, _ => string (String.ofList text)
  | _, _, some n, _ => int32 n
  | _, _, _, some x => double x
  | _, _, _, _ => object word

/-- The word that stands for the value. -/
def word : Literal → String
  | undefined => "undefined"
  | null => "null"
  | boolean value => if value then "true" else "false"
  | int32 value => String.ofList (Decimal.signed value)
  | double value => String.ofList (value.text Value.doubleLayout)
  | string value => "\"" ++ value ++ "\""
  | magic => "magic"
  | object name => name

end Literal

end FlowTypes.Trace
