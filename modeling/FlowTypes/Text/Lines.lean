/-!
# Lines of a text

A line ends at a line feed, and a carriage return right before it belongs to the end too.  The last
line need not be ended, and an ended last line is not followed by an empty one.

## Main result

A line in front of a text is cut off whole (`lines_append_newline`).
-/

namespace FlowTypes.Text

/-- Puts a character in front of the first line. -/
def pushToLine (c : Char) : List (List Char) → List (List Char)
  | [] => [[c]]
  | l :: ls => (c :: l) :: ls

/-- The lines of a text, without their ends. -/
def lines : List Char → List (List Char)
  | [] => []
  | '\n' :: cs => [] :: lines cs
  | '\r' :: '\n' :: cs => [] :: lines cs
  | c :: cs => pushToLine c (lines cs)

/-- A line without carriage returns that is ended by a line feed is cut off whole. -/
theorem lines_append_newline {l : List Char} (hn : '\n' ∉ l) (hr : '\r' ∉ l) (rest : List Char) :
    lines (l ++ '\n' :: rest) = l :: lines rest := by
  induction l with
  | nil => rfl
  | cons c cs ih =>
    simp only [List.mem_cons, not_or] at hn hr
    rw [List.cons_append, lines, ih hn.2 hr.2, pushToLine]
    · exact fun h => hn.1 h.symm
    · exact fun _ h => absurd h.symm hr.1

/-- Writes lines one after the other, each ended by a line feed. -/
def unlines (ls : List String) : String :=
  ls.foldl (fun out l => out ++ l ++ "\n") ""

end FlowTypes.Text
