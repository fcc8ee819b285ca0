import FluidStructure.Text.Blank

/-!
# Lines of a configuration

A comment runs from a `#` outside quotes to the end of its line; quotes count from the
start of the line.  What remains has an indent and a trimmed content, and a line with
empty content does not matter.  Content with a colon behind its first character is an
entry; an entry with nothing behind the colon opens a section.
-/

namespace FluidStructure.Config

open FluidStructure.Text

namespace Line

/-- The line up to its comment; `quote` is the quote that is open, if any. -/
def stripCommentFrom (quote : Option Char) : List Char → List Char
  | [] => []
  | c :: rest =>
    match quote with
    | some q => c :: stripCommentFrom (if c = q then none else some q) rest
    | none =>
      if c = '"' ∨ c = '\'' then c :: stripCommentFrom (some c) rest
      else if c = '#' then []
      else c :: stripCommentFrom none rest

/-- The line up to its comment. -/
def stripComment (cs : List Char) : List Char := stripCommentFrom none cs

/-- Width of the leading run of spaces and tabs; a tab counts four.  The program counts in 32 bits,
and an indent stays below 2^31 columns. -/
def indentWidth : List Char → Nat
  | ' ' :: rest => 1 + indentWidth rest
  | '\t' :: rest => 4 + indentWidth rest
  | _ => 0

/-- What an entry does. -/
inductive Entry where
  /-- Opens the subsection of that name. -/
  | header (name : String)
  /-- Stores a literal under a key. -/
  | assignment (key : String) (literal : List Char)

/-- Splits content at its first colon; none if there is no colon or it stands first. -/
def entry? (content : List Char) : Option Entry :=
  let before := content.takeWhile (· ≠ ':')
  match content.dropWhile (· ≠ ':') with
  | _ :: behind =>
    if before.isEmpty then none
    else
      let key := String.ofList (trim before)
      let rest := trim behind
      some (if rest.isEmpty then .header key else .assignment key rest)
  | [] => none

end Line

/-- A line that is not blank once its comment is gone. -/
structure Line where
  /-- Position among all lines, from one; like the indent, it stays below 2^31. -/
  number : Nat
  indent : Nat
  content : List Char

namespace Line

/-- The line at a position, if it matters. -/
def read? (number : Nat) (raw : List Char) : Option Line :=
  let line := stripComment raw
  let content := trim line
  if content.isEmpty then none else some ⟨number, indentWidth line, content⟩

/-- Lines that matter, numbered from the given number on. -/
def significantFrom (number : Nat) : List (List Char) → List Line
  | [] => []
  | raw :: rest =>
    match read? number raw with
    | some line => line :: significantFrom (number + 1) rest
    | none => significantFrom (number + 1) rest

/-- Lines of a text that matter. -/
def significant (cs : List Char) : List Line := significantFrom 1 (pieces '\n' cs)

end Line

end FluidStructure.Config
