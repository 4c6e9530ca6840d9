/-!
# The lines of a text

A line feed ends a line, and a carriage return right before it belongs to the ending. What
follows the last line feed is a line only if it is not empty; a carriage return at its end
stays in it.
-/

namespace SourceDiagnostics.Text

/-- The lines of the characters, without their endings. -/
def linesOfChars : List Char → List (List Char)
  | [] => []
  | '\n' :: rest => [] :: linesOfChars rest
  | '\r' :: '\n' :: rest => [] :: linesOfChars rest
  | c :: rest =>
    match linesOfChars rest with
    | [] => [[c]]
    | line :: lines => (c :: line) :: lines

/-- The lines of the text, without their endings. -/
def lines (text : String) : List String :=
  (linesOfChars text.toList).map String.ofList

/-- No line holds a line feed. -/
theorem not_mem_of_mem_linesOfChars {chars line : List Char} (h : line ∈ linesOfChars chars) :
    '\n' ∉ line := by
  induction chars using linesOfChars.induct generalizing line with
  | case1 => simp [linesOfChars] at h
  | case2 rest ih =>
    simp only [linesOfChars, List.mem_cons] at h
    rcases h with rfl | h
    · simp
    · exact ih h
  | case3 rest ih =>
    simp only [linesOfChars, List.mem_cons] at h
    rcases h with rfl | h
    · simp
    · exact ih h
  | case4 c rest hn _ hl _ =>
    simp only [linesOfChars, hl] at h
    obtain rfl := List.mem_singleton.mp h
    simpa using fun hc ↦ hn hc.symm
  | case5 c rest hn _ first others hl ih =>
    simp only [linesOfChars, hl, List.mem_cons] at h
    rcases h with rfl | h
    · have := @ih first (by simp [hl])
      simp only [List.mem_cons, not_or]
      exact ⟨fun hc ↦ hn hc.symm, this⟩
    · exact ih (by simp [hl, h])

end SourceDiagnostics.Text
