import FluidStructure.Config.Line
import FluidStructure.Config.Literal
import FluidStructure.Config.Section

/-!
# Reading a configuration

Lines are placed by their indents.  An open section has the indent of the header that
opened it; a line closes every open section whose indent is not smaller than its own,
and belongs to the innermost one left.  The root is always open.
-/

namespace FluidStructure.Config

/-- An open section: the indent of its header and its path from the root. -/
structure OpenSection where
  indent : Nat
  path : List String

namespace Reader

/-- The open sections that a line of some indent leaves open, innermost first. -/
def stillOpen (indent : Nat) (opened : List OpenSection) : List OpenSection :=
  opened.dropWhile fun o => indent ≤ o.indent

/-- Path of the innermost open section. -/
def innermost : List OpenSection → List String
  | [] => []
  | o :: _ => o.path

/-- The tree read so far and the sections that are open, innermost first. -/
structure State where
  root : Section
  opened : List OpenSection

/-- Places one line. -/
def place (st : State) (line : Line) : Except Fault State :=
  let opened := stillOpen line.indent st.opened
  let path := innermost opened
  match Line.entry? line.content with
  | none => .error (.configLine line.number (String.ofList line.content))
  | some (.header name) =>
    .ok
      { root := st.root.updateAt id (path ++ [name])
        opened := ⟨line.indent, path ++ [name]⟩ :: opened }
  | some (.assignment key literal) =>
    .ok
      { root := st.root.updateAt (fun s => s.set key (Literal.parse literal)) path
        opened := opened }

/-- Places lines one after the other. -/
def placeAll (st : State) : List Line → Except Fault State
  | [] => .ok st
  | line :: rest =>
    match place st line with
    | .ok next => placeAll next rest
    | .error fault => .error fault

end Reader

/-- Reads a configuration text. -/
def read (text : String) : Except Fault Section :=
  match Reader.placeAll ⟨Section.empty "root", []⟩ (Line.significant text.toList) with
  | .ok st => .ok st.root
  | .error fault => .error fault

end FluidStructure.Config
