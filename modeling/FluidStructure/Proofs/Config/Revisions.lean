import FluidStructure.Proofs.Config.Grammar
import FluidStructure.Proofs.Config.RoundTrip
import Mathlib.Logic.Relation

/-!
# Revisions that change nothing

Empty lines, comments and blanks at the ends of lines are there for people.  They can come and go, at
any places and any number of times, and the text still has the same tree or is still refused.

The reader goes by the indents and contents of the lines that have any; the numbers of the lines show
in refusals only.  So it is enough that an edit keeps the list of indents and contents.
-/

namespace FluidStructure.Config

open FluidStructure.Text

/-! ## Edits -/

/-- Quotes come in pairs up to the comment, if there is one: at the end of the line none is open. -/
inductive Closed : List Char → Prop
  | nothing : Closed []
  | comment (rest : List Char) : Closed ('#' :: rest)
  | plain {c : Char} {rest : List Char} (other : c ≠ '#' ∧ c ≠ '"' ∧ c ≠ '\'')
      (later : Closed rest) : Closed (c :: rest)
  | quoted {quote : Char} {inside rest : List Char} (either : quote = '"' ∨ quote = '\'')
      (within : quote ∉ inside) (later : Closed rest) :
      Closed (quote :: (inside ++ quote :: rest))

/-- Spaces, and possibly a comment behind them. -/
inductive Vacant : List Char → Prop
  | blank {spaces : List Char} (space : ∀ c ∈ spaces, isSpace c = true) : Vacant spaces
  | comment {spaces : List Char} (space : ∀ c ∈ spaces, isSpace c = true) (rest : List Char) :
      Vacant (spaces ++ '#' :: rest)

/-- What an edit does to the lines of a text. -/
inductive Edit : List (List Char) → List (List Char) → Prop
  | insert (before after : List (List Char)) {line : List Char} (vacant : Vacant line) :
      Edit (before ++ after) (before ++ line :: after)
  | delete (before after : List (List Char)) {line : List Char} (vacant : Vacant line) :
      Edit (before ++ line :: after) (before ++ after)
  | pad (before after : List (List Char)) (line : List Char) {spaces : List Char}
      (space : ∀ c ∈ spaces, isSpace c = true) :
      Edit (before ++ line :: after) (before ++ (line ++ spaces) :: after)
  | remark (before after : List (List Char)) {line : List Char} (closed : Closed line)
      (rest : List Char) :
      Edit (before ++ line :: after) (before ++ (line ++ '#' :: rest) :: after)

/-- One text comes from the other by one edit. -/
def Revised (text text' : String) : Prop :=
  ∃ lines lines', (∀ line ∈ lines, '\n' ∉ line) ∧ (∀ line ∈ lines', '\n' ∉ line) ∧
    text = unlines lines ∧ text' = unlines lines' ∧ Edit lines lines'

/-- The text with a carriage return in front of every line end. -/
def returned (text : String) : String :=
  String.ofList (text.toList.flatMap fun c => if c = '\n' then ['\r', c] else [c])

/-! ## What the reader goes by -/

section Outcomes

variable {ε α β : Type} {outcome : Except ε α}

theorem toOption_map (f : α → β) (outcome : Except ε α) :
    (outcome.map f).toOption = outcome.toOption.map f := by
  cases outcome with
  | ok value => rfl
  | error fault => rfl

theorem toOption_eq_none : outcome.toOption = none ↔ ∃ fault, outcome = .error fault := by
  cases outcome with
  | ok value => simp [Except.toOption]
  | error fault => simp [Except.toOption]

theorem toOption_eq_some {value : α} : outcome.toOption = some value ↔ outcome = .ok value := by
  cases outcome with
  | ok other => simp [Except.toOption]
  | error fault => simp [Except.toOption]

end Outcomes

namespace Line

/-- Indent and content, without the number. -/
def gist (line : Line) : Nat × List Char := (line.indent, line.content)

/-- Indent and content of a raw line, if it matters. -/
def gist? (raw : List Char) : Option (Nat × List Char) := (read? 0 raw).map gist

theorem map_gist_read? (number : Nat) (raw : List Char) :
    (read? number raw).map gist = gist? raw := by
  unfold gist? read?
  dsimp only
  split
  · rfl
  · rfl

/-- The numbers apart, a line is read the same wherever it stands. -/
theorem map_gist_significantFrom (number : Nat) (raws : List (List Char)) :
    (significantFrom number raws).map gist = raws.filterMap gist? := by
  induction raws generalizing number with
  | nil => rfl
  | cons raw rest ih =>
    have here := map_gist_read? number raw
    rw [significantFrom, List.filterMap_cons, ← here]
    cases read? number raw with
    | none => exact ih (number + 1)
    | some line => exact congrArg (line.gist :: ·) (ih (number + 1))

end Line

namespace Reader

variable {line line' : Line} {lines lines' : List Line}

theorem toOption_place (same : line.gist = line'.gist) (st : State) :
    (place st line).toOption = (place st line').toOption := by
  obtain ⟨indent, content⟩ := Prod.mk.inj same
  unfold place
  dsimp only
  rw [indent, content]
  cases Line.entry? line'.content with
  | none => rfl
  | some entry =>
    cases entry with
    | header name => rfl
    | assignment key literal => rfl

/-- Line numbers show in refusals only. -/
theorem toOption_placeAll (same : lines.map Line.gist = lines'.map Line.gist) (st : State) :
    (placeAll st lines).toOption = (placeAll st lines').toOption := by
  induction lines generalizing lines' st with
  | nil =>
    rw [List.map_nil, eq_comm, List.map_eq_nil_iff] at same
    rw [same]
  | cons line rest ih =>
    cases lines' with
    | nil => cases same
    | cons line' rest' =>
      obtain ⟨first, later⟩ := List.cons.inj same
      have here := toOption_place first st
      unfold placeAll
      cases placed : place st line with
      | error fault =>
        cases placed' : place st line' with
        | error fault' => rfl
        | ok next' =>
          rw [placed, placed'] at here
          cases here
      | ok next =>
        cases placed' : place st line' with
        | error fault' =>
          rw [placed, placed'] at here
          cases here
        | ok next' =>
          rw [placed, placed'] at here
          obtain rfl : next = next' := Option.some.inj here
          exact ih later next

end Reader

theorem read_eq (text : String) :
    read text =
      (Reader.placeAll ⟨Section.empty "root", []⟩ (Line.significant text.toList)).map
        Reader.State.root := by
  unfold read
  cases Reader.placeAll ⟨Section.empty "root", []⟩ (Line.significant text.toList) with
  | ok last => rfl
  | error fault => rfl

/-! ## Edits of one line -/

theorem Closed.inert_append {cs rest : List Char} (inert : ∀ c ∈ cs, isInert c = true)
    (closed : Closed rest) : Closed (cs ++ rest) := by
  induction cs with
  | nil => exact closed
  | cons c cs ih =>
    obtain ⟨here, later⟩ := List.forall_mem_cons.1 inert
    simp only [isInert, Bool.and_eq_true, decide_eq_true_eq] at here
    exact .plain ⟨here.1.1.1, here.1.1.2, here.1.2⟩ (ih later)

theorem isInert_of_space {spaces : List Char} (space : ∀ c ∈ spaces, isSpace c = true) :
    ∀ c ∈ spaces, isInert c = true :=
  fun c member => Literal.isInert_of_isSpace (space c member)

theorem isBlank_of_space {spaces : List Char} (space : ∀ c ∈ spaces, isSpace c = true) :
    ∀ c ∈ spaces, isBlank c = true :=
  fun c member => isBlank_of_isSpace (space c member)

namespace Line

variable {raw spaces : List Char}

theorem stripCommentFrom_inert {cs : List Char} (inert : ∀ c ∈ cs, isInert c = true)
    (quote : Option Char) : stripCommentFrom quote cs = cs := by
  induction cs generalizing quote with
  | nil => rfl
  | cons c rest ih =>
    obtain ⟨here, later⟩ := List.forall_mem_cons.1 inert
    simp only [isInert, Bool.and_eq_true, decide_eq_true_eq] at here
    cases quote with
    | none => simp [stripCommentFrom, here, ih later]
    | some q => simp [stripCommentFrom, ih later]

/-- Spaces at the end of a line stay there, or go with its comment. -/
theorem stripCommentFrom_append_spaces (space : ∀ c ∈ spaces, isSpace c = true)
    (quote : Option Char) (raw : List Char) :
    ∃ kept, stripCommentFrom quote (raw ++ spaces) = stripCommentFrom quote raw ++ kept ∧
      ∀ c ∈ kept, isSpace c = true := by
  fun_induction stripCommentFrom quote raw with
  | case1 quote => exact ⟨spaces, stripCommentFrom_inert (isInert_of_space space) quote, space⟩
  | case2 c rest quote ih =>
    obtain ⟨kept, same, spaced⟩ := ih
    exact ⟨kept, by simpa [stripCommentFrom] using same, spaced⟩
  | case3 c rest quotes ih =>
    obtain ⟨kept, same, spaced⟩ := ih
    exact ⟨kept, by simpa [stripCommentFrom, quotes] using same, spaced⟩
  | case4 => exact ⟨[], by simp [stripCommentFrom], List.forall_mem_nil _⟩
  | case5 c rest other sign ih =>
    obtain ⟨kept, same, spaced⟩ := ih
    exact ⟨kept, by simpa [stripCommentFrom, other, sign] using same, spaced⟩

/-- The indent ends at the first character that is not blank. -/
theorem indentWidth_append (solid : ∃ c ∈ raw, isBlank c = false) (behind : List Char) :
    indentWidth (raw ++ behind) = indentWidth raw := by
  rw [indentWidth_eq, indentWidth_eq, List.takeWhile_append, if_neg]
  intro whole
  obtain ⟨c, member, visible⟩ := solid
  rw [← (List.takeWhile_prefix _).eq_of_length whole] at member
  have lead := List.mem_takeWhile_imp member
  simp only [Bool.or_eq_true, decide_eq_true_eq] at lead
  rcases lead with rfl | rfl
  · cases visible
  · cases visible

theorem gist?_append_spaces (space : ∀ c ∈ spaces, isSpace c = true) (raw : List Char) :
    gist? (raw ++ spaces) = gist? raw := by
  obtain ⟨kept, same, spaced⟩ := stripCommentFrom_append_spaces space none raw
  have content : trim (stripComment (raw ++ spaces)) = trim (stripComment raw) := by
    unfold stripComment
    rw [same, trim_append_blanks (isBlank_of_space spaced)]
  unfold gist? read?
  dsimp only
  rw [content]
  split
  · rfl
  · rename_i some
    have solid : ∃ c ∈ stripComment raw, isBlank c = false := by
      rw [List.isEmpty_iff, trim_eq_nil_iff] at some
      simpa using some
    have indent : indentWidth (stripComment (raw ++ spaces)) = indentWidth (stripComment raw) := by
      unfold stripComment at solid ⊢
      rw [same, indentWidth_append solid]
    rw [indent]

theorem gist?_append_comment (closed : Closed raw) (rest : List Char) :
    gist? (raw ++ '#' :: rest) = gist? raw := by
  have stripped : stripComment (raw ++ '#' :: rest) = stripComment raw := by
    unfold stripComment
    induction closed with
    | nothing => rfl
    | comment => rfl
    | plain other _ ih => simp [stripCommentFrom, other, ih]
    | @quoted quote inside later either within _ ih =>
      have opened (cs : List Char) :
          stripCommentFrom none (quote :: cs) = quote :: stripCommentFrom (some quote) cs := by
        rw [stripCommentFrom, if_pos either]
      rw [List.cons_append, List.append_assoc, List.cons_append, opened, opened,
        stripCommentFrom_quoted within, stripCommentFrom_quoted within, ih]
  unfold gist? read?
  rw [stripped]

theorem gist?_vacant (vacant : Vacant raw) : gist? raw = none := by
  have nothing {spaces : List Char} (space : ∀ c ∈ spaces, isSpace c = true) :
      gist? spaces = none := by
    have blank : trim spaces = [] := trim_eq_nil_iff.2 (isBlank_of_space space)
    simp [gist?, read?, stripComment, stripCommentFrom_inert (isInert_of_space space), blank]
  cases vacant with
  | blank space => exact nothing space
  | comment space rest =>
    have closed := Closed.inert_append (isInert_of_space space) .nothing
    rw [List.append_nil] at closed
    rw [gist?_append_comment closed, nothing space]

end Line

/-! ## Any number of edits -/

theorem Edit.filterMap_gist? {lines lines' : List (List Char)} (edit : Edit lines lines') :
    lines.filterMap Line.gist? = lines'.filterMap Line.gist? := by
  cases edit with
  | insert before after vacant => simp [Line.gist?_vacant vacant]
  | delete before after vacant => simp [Line.gist?_vacant vacant]
  | pad before after line space => simp [List.filterMap_cons, Line.gist?_append_spaces space]
  | remark before after closed rest =>
    simp [List.filterMap_cons, Line.gist?_append_comment closed]

theorem Revised.toOption_read {text text' : String} (revised : Revised text text') :
    (read text).toOption = (read text').toOption := by
  obtain ⟨lines, lines', whole, whole', rfl, rfl, edit⟩ := revised
  rw [read_eq, read_eq, toOption_map, toOption_map, significant_unlines whole,
    significant_unlines whole', Reader.toOption_placeAll]
  rw [Line.map_gist_significantFrom, Line.map_gist_significantFrom, edit.filterMap_gist?]

theorem toOption_read_of_revisions {text text' : String}
    (revisions : Relation.ReflTransGen Revised text text') :
    (read text).toOption = (read text').toOption := by
  induction revisions with
  | refl => rfl
  | tail _ last ih => exact ih.trans last.toOption_read

/-! ## Line ends -/

/-- A carriage return behind every line but the last. -/
def withReturns : List (List Char) → List (List Char)
  | [] => []
  | [line] => [line]
  | line :: next :: rest => (line ++ ['\r']) :: withReturns (next :: rest)

theorem unlines_withReturns {lines : List (List Char)} (whole : ∀ line ∈ lines, '\n' ∉ line) :
    unlines (withReturns lines) = returned (unlines lines) := by
  have kept {line : List Char} (whole : '\n' ∉ line) :
      (line.flatMap fun c => if c = '\n' then ['\r', c] else [c]) = line := by
    induction line with
    | nil => rfl
    | cons c rest ih =>
      obtain ⟨other, later⟩ := not_or.1 (mt List.mem_cons.2 whole)
      simp [ih later, Ne.symm other]
  unfold unlines returned
  rw [String.toList_ofList]
  congr 1
  fun_induction withReturns lines with
  | case1 => rfl
  | case2 line => simp [kept (whole line List.mem_cons_self)]
  | case3 line next rest ih =>
    obtain ⟨here, later⟩ := List.forall_mem_cons.1 whole
    have some : withReturns (next :: rest) ≠ [] := by
      cases rest with
      | nil => exact List.cons_ne_nil _ _
      | cons => exact List.cons_ne_nil _ _
    rw [List.intercalate_cons_of_ne_nil some, ih later, List.intercalate_cons_cons]
    simp [kept here]

/-- Line ends are converted one after the other. -/
theorem revisions_withReturns (before : List (List Char)) {lines : List (List Char)}
    (first : ∀ line ∈ before, '\n' ∉ line) (whole : ∀ line ∈ lines, '\n' ∉ line) :
    Relation.ReflTransGen Revised (unlines (before ++ lines))
      (unlines (before ++ withReturns lines)) := by
  fun_induction withReturns lines generalizing before with
  | case1 => exact .refl
  | case2 => exact .refl
  | case3 line next rest ih =>
    obtain ⟨here, later⟩ := List.forall_mem_cons.1 whole
    have ended : '\n' ∉ line ++ ['\r'] := by simpa using here
    have padded : Revised (unlines (before ++ line :: next :: rest))
        (unlines (before ++ (line ++ ['\r']) :: next :: rest)) :=
      ⟨_, _, List.forall_mem_append.2 ⟨first, whole⟩,
        List.forall_mem_append.2 ⟨first, List.forall_mem_cons.2 ⟨ended, later⟩⟩, rfl, rfl,
        .pad before (next :: rest) line (List.forall_mem_singleton.2 rfl)⟩
    have others := ih (before ++ [line ++ ['\r']])
      (List.forall_mem_append.2 ⟨first, List.forall_mem_singleton.2 ended⟩) later
    rw [List.append_assoc, List.append_assoc] at others
    exact .head padded others

theorem revisions_returned (text : String) :
    Relation.ReflTransGen Revised text (returned text) := by
  have whole : ∀ line ∈ pieces '\n' text.toList, '\n' ∉ line := fun _ => not_mem_of_mem_pieces
  have same : unlines (pieces '\n' text.toList) = text := by
    unfold unlines
    rw [pieces_eq_splitOn, List.intercalate_splitOn, String.ofList_toList]
  have revisions := revisions_withReturns [] (List.forall_mem_nil _) whole
  rwa [List.nil_append, List.nil_append, unlines_withReturns whole, same] at revisions

/-- Blank lines, comments and blanks at the ends of lines do not matter, and neither do carriage
returns in front of the line ends: with or without them a text is refused, or it has one tree. -/
theorem read_revised (text : String) :
    Relation.ReflTransGen Revised text (returned text) ∧
    ∀ text', Relation.ReflTransGen Revised text text' →
      ((∃ fault, read text = .error fault) ↔ ∃ fault, read text' = .error fault) ∧
      ∀ tree, read text = .ok tree ↔ read text' = .ok tree := by
  refine ⟨revisions_returned text, fun text' revisions => ?_⟩
  have same := toOption_read_of_revisions revisions
  rw [← toOption_eq_none, ← toOption_eq_none, same]
  exact ⟨Iff.rfl, fun tree => by rw [← toOption_eq_some, ← toOption_eq_some, same]⟩

namespace Commented

def text : String := "a:\n  b: 'on'"

/-- The text with one line more, another line end, and a comment behind the quotes. -/
def revision : String := "a:\r\n\t# c: 1\n  b: 'on'# d"

theorem closed : Closed "  b: 'on'".toList := by
  have front : ∀ c ∈ "  b: ".toList, isInert c = true := List.all_eq_true.1 rfl
  have quoted : Closed ('\'' :: ("on".toList ++ '\'' :: [])) :=
    .quoted (.inr rfl) (by decide) .nothing
  exact quoted.inert_append front

theorem revisions : Relation.ReflTransGen Revised text revision := by
  let a := "a:".toList
  let b := "  b: 'on'".toList
  let c := '\t' :: '#' :: " c: 1".toList
  have inserted : Revised text (unlines [a, c, b]) :=
    ⟨[a, b], [a, c, b], by decide +kernel, by decide +kernel, rfl, rfl,
      .insert [a] [b] (@Vacant.comment ['\t'] (List.forall_mem_singleton.2 rfl) _)⟩
  have padded : Revised (unlines [a, c, b]) (unlines [a ++ ['\r'], c, b]) :=
    ⟨_, _, by decide +kernel, by decide +kernel, rfl, rfl,
      .pad [] [c, b] a (List.forall_mem_singleton.2 rfl)⟩
  have remarked : Revised (unlines [a ++ ['\r'], c, b]) revision :=
    ⟨_, [a ++ ['\r'], c, b ++ '#' :: " d".toList], by decide +kernel, by decide +kernel, rfl,
      rfl, .remark [_, c] [] closed _⟩
  exact .head inserted (.head padded (.single remarked))

theorem read_revised_commented :
    read text = .ok (.node "root" [] [("a", .node "a" [("b", .text "on")] [])]) ∧
      read revision = .ok (.node "root" [] [("a", .node "a" [("b", .text "on")] [])]) :=
  ⟨rfl, (((read_revised text).2 revision revisions).2 _).1 rfl⟩

end Commented

end FluidStructure.Config
