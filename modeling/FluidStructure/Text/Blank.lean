/-!
# Blanks and pieces of text

Blank are the space, the tab, the carriage return and the line feed, and nothing
else: any other character, the vertical tab included, is content.
-/

namespace FluidStructure.Text

/-- Space, tab, carriage return, line feed. -/
def isBlank (c : Char) : Bool := c == ' ' || c == '\t' || c == '\r' || c == '\n'

/-- Text without the blanks at its end. -/
def trimRight (cs : List Char) : List Char := (cs.reverse.dropWhile isBlank).reverse

/-- Text without the blanks at both ends. -/
def trim (cs : List Char) : List Char := trimRight (cs.dropWhile isBlank)

/-- The pieces between the occurrences of a separator; one more than there are. -/
def pieces (separator : Char) : List Char → List (List Char)
  | [] => [[]]
  | c :: rest =>
    if c = separator then [] :: pieces separator rest
    else
      match pieces separator rest with
      | [] => [[c]]
      | first :: others => (c :: first) :: others

/-- Is the text enclosed in two equal quotes? -/
def isQuoted (cs : List Char) : Bool :=
  match cs with
  | first :: second :: rest =>
    (first == '"' || first == '\'') && (second :: rest).getLast? == some first
  | _ => false

/-- Text without its first and its last character. -/
def inside (cs : List Char) : List Char := (cs.drop 1).dropLast

theorem pieces_ne_nil (separator : Char) (cs : List Char) : pieces separator cs ≠ [] := by
  cases cs with
  | nil => simp [pieces]
  | cons c rest =>
    simp only [pieces]
    split
    · simp
    · split <;> simp

theorem pieces_append_separator (separator : Char) (cs rest : List Char)
    (h : separator ∉ cs) :
    pieces separator (cs ++ separator :: rest) = cs :: pieces separator rest := by
  induction cs with
  | nil => simp [pieces]
  | cons c cs ih =>
    have hc : c ≠ separator := fun e => h (by simp [e])
    have hcs : separator ∉ cs := fun m => h (by simp [m])
    simp [pieces, hc, ih hcs]

theorem pieces_of_not_mem (separator : Char) (cs : List Char) (h : separator ∉ cs) :
    pieces separator cs = [cs] := by
  induction cs with
  | nil => simp [pieces]
  | cons c cs ih =>
    have hc : c ≠ separator := fun e => h (by simp [e])
    have hcs : separator ∉ cs := fun m => h (by simp [m])
    simp [pieces, hc, ih hcs]

end FluidStructure.Text
