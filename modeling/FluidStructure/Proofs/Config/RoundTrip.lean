import FluidStructure.Proofs.Config.Filling
import FluidStructure.Proofs.Config.Literals
import FluidStructure.Proofs.Config.Placement

/-!
# Reading undoes writing

A tree can be written in many ways: its entries in any order, each section with an indent of its
own, with spaces, comments and empty lines where they do no harm.  Reading gives the tree back from
all of them.

While the lines of a section are read, the section itself is the only place of the tree that
changes, and after them the sections that were open around it are open again.
-/

namespace FluidStructure.Config

open FluidStructure.Text

/-! ## Trees that can be written -/

/-- What a key or the name of a section can be. -/
structure Nameable (name : String) : Prop where
  some : name ≠ ""
  plain : ∀ c ∈ name.toList, isInert c = true ∧ c ≠ ':'
  tight : Tight name.toList

/-- Each key comes once, in its place, each subsection has the name that it is kept under, and all
names and values have a written form. -/
inductive Section.Writable : Section → Prop
  | node {name : String} {values : KeyMap Value} {subsections : KeyMap Section}
      (values_sorted : values.Sorted) (subsections_sorted : subsections.Sorted)
      (keys : ∀ entry ∈ values, Nameable entry.1 ∧ entry.2.Writable)
      (names : ∀ entry ∈ subsections, Nameable entry.1 ∧ entry.2.name = entry.1)
      (below : ∀ entry ∈ subsections, entry.2.Writable) :
      Section.Writable (.node name values subsections)

/-! ## Layouts -/

/-- What a line holds besides its entry: an indent, spaces around the colon and at the end, and
possibly a comment. -/
structure Margin where
  lead : List Char
  beforeColon : List Char
  afterColon : List Char
  behind : List Char
  comment : List Char
  lead_blank : ∀ c ∈ lead, c = ' ' ∨ c = '\t'
  beforeColon_space : ∀ c ∈ beforeColon, isSpace c = true
  afterColon_space : ∀ c ∈ afterColon, isSpace c = true
  behind_space : ∀ c ∈ behind, isSpace c = true
  comment_hash : ∀ c ∈ comment.head?, c = '#'
  comment_whole : '\n' ∉ comment

namespace Margin

def indent (m : Margin) : Nat := m.lead.count ' ' + 4 * m.lead.count '\t'

/-- The line without its comment. -/
def core (m : Margin) (key : String) (literal : List Char) : List Char :=
  (m.lead ++ key.toList ++ m.beforeColon) ++ ':' :: (m.afterColon ++ literal ++ m.behind)

/-- The line of an entry; a header has no literal. -/
def line (m : Margin) (key : String) (literal : List Char) : List Char :=
  m.core key literal ++ m.comment

end Margin

/-- A line without an entry: spaces, and possibly a comment. -/
def Idle (raw : List Char) : Prop :=
  (Line.stripComment raw).all isSpace = true ∧ '\n' ∉ raw

/-- The lines of some entries, all with one indent.  A subsection is a header and the lines of its
own entries, in any order and further in. -/
inductive Layout : Nat → List Entry → List (List Char) → Prop
  | nothing {indent : Nat} : Layout indent [] []
  | idle {indent : Nat} {entries : List Entry} {raw : List Char} {lines : List (List Char)}
      (idle : Idle raw) (later : Layout indent entries lines) :
      Layout indent entries (raw :: lines)
  | leaf {key : String} {value : Value} {literal : List Char} {entries : List Entry}
      {lines : List (List Char)} (m : Margin) (spells : Spells value literal)
      (later : Layout m.indent entries lines) :
      Layout m.indent (.leaf key value :: entries) (m.line key literal :: lines)
  | branch {inner : Nat} {name : String} {child : Section} {order entries : List Entry}
      {body lines : List (List Char)} (m : Margin) (deeper : m.indent < inner)
      (every : order.Perm child.entries) (below : Layout inner order body)
      (later : Layout m.indent entries lines) :
      Layout m.indent (.branch name child :: entries) (m.line name [] :: (body ++ lines))

/-! ## One line -/

namespace Margin

variable {m : Margin} {key : String} {literal : List Char}

theorem mem_lead {c : Char} (h : c ∈ m.lead) : isSpace c = true := by
  rcases m.lead_blank c h with rfl | rfl
  · decide
  · decide

theorem stripComment_line (nameable : Nameable key) (passes : Passes literal) :
    Line.stripComment (m.line key literal) = m.core key literal := by
  have spaces {cs : List Char} (h : ∀ c ∈ cs, isSpace c = true) : Passes cs :=
    passes_of_inert fun c member => Literal.isInert_of_isSpace (h c member)
  have front : Passes (m.lead ++ key.toList ++ m.beforeColon) :=
    ((spaces fun _ => mem_lead).append (passes_of_inert fun c member =>
      (nameable.plain c member).1)).append (spaces m.beforeColon_space)
  have colon : Passes [':'] := passes_of_inert (List.forall_mem_singleton.2 rfl)
  have back : Passes (m.afterColon ++ literal ++ m.behind) :=
    ((spaces m.afterColon_space).append passes).append (spaces m.behind_space)
  have all : Passes (m.core key literal) := by
    unfold core
    rw [List.append_cons, List.append_assoc]
    exact front.append (colon.append back)
  have comment : Line.stripCommentFrom none m.comment = [] := by
    have hash := m.comment_hash
    cases start : m.comment with
    | nil => rfl
    | cons c rest =>
      rw [start] at hash
      obtain rfl := hash c rfl
      rfl
  unfold Line.stripComment line
  rw [all, comment, List.append_nil]

theorem whole_line (nameable : Nameable key) (whole : '\n' ∉ literal) :
    '\n' ∉ m.line key literal := by
  have spaces {cs : List Char} (h : ∀ c ∈ cs, isSpace c = true) : '\n' ∉ cs :=
    fun member => absurd (h _ member) (by decide)
  have key : '\n' ∉ key.toList := fun member => absurd (nameable.plain _ member).1 (by decide)
  unfold line core
  simp [spaces fun _ => mem_lead, key, spaces m.beforeColon_space, spaces m.afterColon_space, whole,
    spaces m.behind_space, m.comment_whole]

theorem indentWidth_core (nameable : Nameable key) :
    Line.indentWidth (m.core key literal) = m.indent := by
  have start : ∃ c rest, key.toList = c :: rest := List.exists_cons_of_ne_nil fun empty =>
    nameable.some (String.toList_eq_nil_iff.1 empty)
  obtain ⟨c, rest, first⟩ := start
  have solid : isBlank c = false := by simpa [first] using nameable.tight.first
  have run : (m.core key literal).takeWhile (fun c => c = ' ' || c = '\t') = m.lead := by
    unfold core
    rw [first, List.append_assoc, List.append_assoc, List.takeWhile_append_of_pos,
      List.cons_append, List.takeWhile_cons_of_neg, List.append_nil]
    · simp only [Bool.or_eq_true, decide_eq_true_eq]
      rintro (rfl | rfl)
      · cases solid
      · cases solid
    · intro c member
      simpa using m.lead_blank c member
  rw [Line.indentWidth_eq, run]
  rfl

/-- What the reader sees of a line. -/
theorem read?_line (nameable : Nameable key) (passes : Passes literal) (tight : Tight literal)
    (number : Nat) :
    ∃ content, Line.read? number (m.line key literal) = some ⟨number, m.indent, content⟩ ∧
      Line.entry? content =
        some (if literal.isEmpty then .header key else .assignment key literal) := by
  have blanks {cs : List Char} (h : ∀ c ∈ cs, isSpace c = true) : ∀ c ∈ cs, isBlank c = true :=
    fun c member => isBlank_of_isSpace (h c member)
  have name : trim (m.lead ++ key.toList ++ m.beforeColon) = key.toList := by
    rw [trim_append_blanks (blanks m.beforeColon_space),
      trim_blanks_append (blanks fun _ => mem_lead), nameable.tight.trim_eq]
  have value : trim (m.afterColon ++ literal ++ m.behind) = literal := by
    rw [trim_append_blanks (blanks m.behind_space), trim_blanks_append (blanks m.afterColon_space),
      tight.trim_eq]
  have front : ((m.lead ++ key.toList ++ m.beforeColon).dropWhile isBlank).isEmpty = false := by
    rw [List.isEmpty_eq_false_iff]
    intro empty
    rw [trim, empty] at name
    exact nameable.some (String.toList_eq_nil_iff.1 name.symm)
  have first : ':' ∉ m.lead ++ key.toList ++ m.beforeColon := by
    have spaces {cs : List Char} (h : ∀ c ∈ cs, isSpace c = true) : ':' ∉ cs :=
      fun member => absurd (h _ member) (by decide)
    have key : ':' ∉ key.toList := fun member => (nameable.plain _ member).2 rfl
    simp [spaces fun _ => mem_lead, key, spaces m.beforeColon_space]
  have entry : Line.entry? (trim (m.core key literal)) =
      some (if literal.isEmpty then .header key else .assignment key literal) := by
    unfold core
    rw [Line.entry?_trim first, front, name, value, String.ofList_toList]
    rfl
  refine ⟨trim (m.core key literal), ?_, entry⟩
  have some : (trim (m.core key literal)).isEmpty = false := by
    rw [List.isEmpty_eq_false_iff]
    intro empty
    rw [empty] at entry
    cases entry
  unfold Line.read?
  dsimp only
  rw [stripComment_line nameable passes, indentWidth_core nameable, some]
  rfl

end Margin

/-! ## Sections -/

/-- What can be written of an entry. -/
def Entry.Writable : Entry → Prop
  | .leaf key value => Nameable key ∧ value.Writable
  | .branch name child => Nameable name ∧ child.name = name ∧ child.Writable

namespace Section.Writable

variable {s : Section} {order : List Entry}

theorem entries (h : s.Writable) : ∀ entry ∈ s.entries, entry.Writable := by
  cases h with
  | node _ _ keys names below =>
    intro entry member
    rcases List.mem_append.1 member with leaf | branch
    · obtain ⟨pair, inside, rfl⟩ := List.mem_map.1 leaf
      exact keys pair inside
    · obtain ⟨pair, inside, rfl⟩ := List.mem_map.1 branch
      exact ⟨(names pair inside).1, (names pair inside).2, below pair inside⟩

theorem filled (h : s.Writable) (every : order.Perm s.entries) :
    order.foldl Section.add (Section.empty s.name) = s := by
  cases h with
  | node values_sorted subsections_sorted =>
    exact Section.foldl_add_eq values_sorted subsections_sorted every

/-- No two subsections have one name. -/
theorem distinct (h : s.Writable) (every : order.Perm s.entries) :
    ((order.filterMap Entry.section?).map Prod.fst).Nodup := by
  cases h with
  | node _ subsections_sorted =>
    rw [((every.filterMap Entry.section?).map Prod.fst).nodup_iff, Section.filterMap_section?]
    exact List.Pairwise.imp String.ne_of_lt subsections_sorted

end Section.Writable

namespace Reader

/-- Lines that are read one list after the other. -/
theorem placeAll_append (st : State) (first second : List Line) :
    placeAll st (first ++ second) = (placeAll st first).bind fun next => placeAll next second := by
  induction first generalizing st with
  | nil => rfl
  | cons line rest ih =>
    simp only [List.cons_append, placeAll]
    cases place st line with
    | ok next => exact ih next
    | error fault => rfl

theorem significantFrom_append (number : Nat) (first second : List (List Char)) :
    Line.significantFrom number (first ++ second) =
      Line.significantFrom number first ++
        Line.significantFrom (number + first.length) second := by
  induction first generalizing number with
  | nil => rfl
  | cons raw rest ih =>
    simp only [List.cons_append, Line.significantFrom, ih, List.length_cons, Nat.add_assoc,
      Nat.add_comm 1]
    cases Line.read? number raw with
    | none => rfl
    | some line => rfl

/-- The lines change the section at the path from one to another, and leave open what a line of that
indent leaves open before them. -/
def Fills (indent : Nat) (s t : Section) (lines : List (List Char)) : Prop :=
  ∀ (root : Section) (opened base : List OpenSection) (number : Nat),
    stillOpen indent opened = base →
    ∃ later, stillOpen indent later = base ∧
      placeAll ⟨root.updateAt (fun _ => s) (innermost base), opened⟩
          (Line.significantFrom number lines) =
        .ok ⟨root.updateAt (fun _ => t) (innermost base), later⟩

section Fills

variable {indent inner : Nat} {s t u : Section} {raw : List Char} {lines more : List (List Char)}

theorem Fills.nothing : Fills indent s s [] := fun _ opened _ _ stands => ⟨opened, stands, rfl⟩

theorem Fills.append (h : Fills indent s t lines) (k : Fills indent t u more) :
    Fills indent s u (lines ++ more) := by
  intro root opened base number stands
  obtain ⟨between, stands, first⟩ := h root opened base number stands
  obtain ⟨later, stands, second⟩ := k root between base (number + lines.length) stands
  refine ⟨later, stands, ?_⟩
  rw [significantFrom_append, placeAll_append, first]
  exact second

theorem Fills.idle (idle : Idle raw) : Fills indent s s [raw] := by
  intro root opened base number stands
  refine ⟨opened, stands, ?_⟩
  have skipped : Line.significantFrom number [raw] = [] := by
    have inside : '\n' ∉ Line.stripComment raw := fun member =>
      idle.2 ((Line.stripCommentFrom_prefix _ _).subset member)
    simp only [Line.significantFrom, Line.read?_eq number inside, idle.1, if_true]
  rw [skipped]
  rfl

/-- A line with a value. -/
theorem Fills.leaf {m : Margin} {key : String} {value : Value} {literal : List Char}
    (nameable : Nameable key) (legible : Legible value literal) :
    Fills m.indent s (s.add (.leaf key value)) [m.line key literal] := by
  intro root opened base number stands
  obtain ⟨content, sees, entry⟩ := m.read?_line nameable legible.passes legible.tight number
  rw [List.isEmpty_eq_false_iff.2 legible.some] at entry
  change Line.entry? content = some (.assignment key literal) at entry
  refine ⟨base, ?_, ?_⟩
  · rw [← stands, stillOpen_within (Nat.le_refl _)]
  · simp only [Line.significantFrom, sees, placeAll, place, entry, stands]
    rw [Section.updateAt_updateAt, legible.reads]
    rfl

/-- A header, and the lines of its section. -/
theorem Fills.branch {m : Margin} {name : String} {child : Section} (nameable : Nameable name)
    (fresh : s.subsections.get? name = none) (deeper : m.indent < inner)
    (below : Fills inner (Section.empty name) child lines) :
    Fills m.indent s (s.add (.branch name child)) (m.line name [] :: lines) := by
  intro root opened base number stands
  obtain ⟨content, sees, entry⟩ :=
    m.read?_line nameable (passes_of_inert (List.forall_mem_nil _)) ⟨rfl, rfl⟩ number
  change Line.entry? content = some (.header name) at entry
  -- the header opens an empty section, which then is all that the lines below it change
  have change (f : Section → Section) :
      (root.updateAt (fun _ => s) (innermost base)).updateAt f (innermost base ++ [name]) =
        root.updateAt (fun _ => s.updateAt f [name]) (innermost base) := by
    rw [Section.updateAt_append, Section.updateAt_updateAt]
  have created : s.updateAt id [name] = s.updateAt (fun _ => Section.empty name) [name] := by
    simp only [Section.updateAt, Section.childOrEmpty, fresh, Option.getD_none, id]
  have header : placeAll ⟨root.updateAt (fun _ => s) (innermost base), opened⟩
      (Line.significantFrom number (m.line name [] :: lines)) =
        placeAll ⟨(root.updateAt (fun _ => s) (innermost base)).updateAt
          (fun _ => Section.empty name) (innermost base ++ [name]),
          ⟨m.indent, innermost base ++ [name]⟩ :: base⟩
          (Line.significantFrom (number + 1) lines) := by
    simp only [Line.significantFrom, sees, placeAll, place, entry, stands]
    rw [change, change, created]
  obtain ⟨later, stays, filled⟩ := below (root.updateAt (fun _ => s) (innermost base))
    (⟨m.indent, innermost base ++ [name]⟩ :: base) _ (number + 1) (stillOpen_cons_of_lt deeper _)
  refine ⟨later, ?_, ?_⟩
  · rw [← stillOpen_past (Nat.le_of_lt deeper), stays,
      stillOpen_cons_of_le (o := ⟨m.indent, innermost base ++ [name]⟩) (Nat.le_refl m.indent),
      ← stands, stillOpen_within (Nat.le_refl _)]
  · exact header.trans (filled.trans (by rw [innermost, change]; rfl))

end Fills

end Reader

/-- Lines in a layout fill a section that has none of their subsections yet. -/
theorem Layout.fills {indent : Nat} {order : List Entry} {lines : List (List Char)}
    (layout : Layout indent order lines) (writable : ∀ entry ∈ order, entry.Writable)
    (distinct : ((order.filterMap Entry.section?).map Prod.fst).Nodup) {s : Section}
    (fresh : ∀ name ∈ (order.filterMap Entry.section?).map Prod.fst,
      s.subsections.get? name = none) :
    Reader.Fills indent s (order.foldl Section.add s) lines := by
  induction layout generalizing s with
  | nothing => exact .nothing
  | idle idle _ ih => exact (Reader.Fills.idle idle).append (ih writable distinct fresh)
  | @leaf key value literal entries lines m spells _ ih =>
    obtain ⟨⟨nameable, form⟩, later⟩ := List.forall_mem_cons.1 writable
    exact (Reader.Fills.leaf nameable (legible form spells)).append (ih later distinct fresh)
  | @branch inner name child order entries body lines m deeper every _ _ within ih =>
    obtain ⟨⟨nameable, rfl, form⟩, later⟩ := List.forall_mem_cons.1 writable
    obtain ⟨new, others⟩ : child.name ∉ (entries.filterMap Entry.section?).map Prod.fst ∧
        ((entries.filterMap Entry.section?).map Prod.fst).Nodup := List.nodup_cons.1 distinct
    obtain ⟨here, elsewhere⟩ := List.forall_mem_cons.1 fresh
    have body := within (fun entry member => form.entries entry (every.mem_iff.1 member))
      (form.distinct every) (s := Section.empty child.name) fun _ _ => rfl
    rw [form.filled every] at body
    refine (Reader.Fills.branch nameable here deeper body).append
      (ih later others fun name member => ?_)
    have other : child.name ≠ name := fun same => new (same ▸ member)
    exact (KeyMap.get?_put_of_ne _ _ other).trans (elsewhere name member)

/-! ## Every tree has a layout -/

/-- A margin of spaces, with one behind the colon. -/
def Margin.spaced (indent : Nat) : Margin where
  lead := List.replicate indent ' '
  beforeColon := []
  afterColon := [' ']
  behind := []
  comment := []
  lead_blank _ member := .inl (List.eq_of_mem_replicate member)
  beforeColon_space := List.forall_mem_nil _
  afterColon_space := List.forall_mem_singleton.2 rfl
  behind_space := List.forall_mem_nil _
  comment_hash := nofun
  comment_whole := List.not_mem_nil

theorem Margin.indent_spaced (indent : Nat) : (Margin.spaced indent).indent = indent := by
  unfold Margin.indent Margin.spaced
  rw [List.count_replicate_self, List.count_replicate]
  rfl

theorem exists_spells {value : Value} (writable : value.Writable) :
    ∃ literal, Spells value literal := by
  cases value with
  | int i => exact ⟨_, .int i⟩
  | bool b =>
    cases b with
    | true => exact ⟨_, .true⟩
    | false => exact ⟨_, .false⟩
  | text s => exact ⟨_, .text s⟩
  | ints is =>
    have items : List.Forall₂ Item is (is.map Decimal.digits) :=
      List.forall₂_map_right_iff.2 (List.forall₂_same.2 fun i _ => item_digits i)
    exact ⟨_, .ints items⟩
  | real _ | reals _ | texts _ => cases writable

/-- Entries have a layout if the sections among them do. -/
theorem exists_layout_of_below {entries : List Entry} (writable : ∀ entry ∈ entries, entry.Writable)
    (below : ∀ name child, .branch name child ∈ entries →
      ∀ indent, ∃ lines, Layout indent child.entries lines) (indent : Nat) :
    ∃ lines, Layout indent entries lines := by
  induction entries with
  | nil => exact ⟨[], .nothing⟩
  | cons entry rest ih =>
    obtain ⟨here, others⟩ := List.forall_mem_cons.1 writable
    obtain ⟨lines, later⟩ := ih others fun name child member =>
      below name child (List.mem_cons_of_mem _ member)
    rw [← Margin.indent_spaced indent] at later ⊢
    cases entry with
    | leaf key value =>
      obtain ⟨literal, spells⟩ := exists_spells here.2
      exact ⟨_, .leaf _ spells later⟩
    | branch name child =>
      obtain ⟨body, inside⟩ := below name child List.mem_cons_self
        ((Margin.spaced indent).indent + 1)
      exact ⟨_, .branch _ (Nat.lt_succ_self _) (.refl _) inside later⟩

theorem Section.Writable.exists_layout {s : Section} (h : s.Writable) (indent : Nat) :
    ∃ lines, Layout indent s.entries lines := by
  have all := h.entries
  induction h generalizing indent with
  | @node name values subsections _ _ _ _ below ih =>
    refine exists_layout_of_below all (fun other child member inner => ?_) indent
    have inside : (other, child) ∈ subsections := by
      rcases List.mem_append.1 member with leaf | branch
      · obtain ⟨_, _, wrong⟩ := List.mem_map.1 leaf
        cases wrong
      · obtain ⟨pair, within, same⟩ := List.mem_map.1 branch
        cases same
        exact within
    exact ih _ inside inner (below _ inside).entries

/-! ## Whole texts -/

theorem Layout.whole {indent : Nat} {order : List Entry} {lines : List (List Char)}
    (layout : Layout indent order lines) (writable : ∀ entry ∈ order, entry.Writable) :
    ∀ raw ∈ lines, '\n' ∉ raw := by
  induction layout with
  | nothing => exact List.forall_mem_nil _
  | idle idle _ ih => exact List.forall_mem_cons.2 ⟨idle.2, ih writable⟩
  | leaf m spells _ ih =>
    obtain ⟨⟨nameable, form⟩, later⟩ := List.forall_mem_cons.1 writable
    exact List.forall_mem_cons.2
      ⟨Margin.whole_line nameable (legible form spells).whole, ih later⟩
  | branch m deeper every _ _ within ih =>
    obtain ⟨⟨nameable, -, form⟩, later⟩ := List.forall_mem_cons.1 writable
    exact List.forall_mem_cons.2 ⟨Margin.whole_line nameable List.not_mem_nil,
      List.forall_mem_append.2 ⟨within fun entry member =>
        form.entries entry (every.mem_iff.1 member), ih later⟩⟩

/-- Lines as one text. -/
def unlines (lines : List (List Char)) : String := String.ofList (['\n'].intercalate lines)

theorem significant_unlines {lines : List (List Char)} (whole : ∀ raw ∈ lines, '\n' ∉ raw) :
    Line.significant (unlines lines).toList = Line.significantFrom 1 lines := by
  unfold Line.significant unlines
  rw [String.toList_ofList]
  by_cases none : lines = []
  · rw [none]
    rfl
  · rw [pieces_intercalate none whole]

/-- A tree that can be written is read back from every layout of it. -/
theorem read_unlines {tree : Section} {indent : Nat} {order : List Entry}
    {lines : List (List Char)} (writable : tree.Writable) (root : tree.name = "root")
    (every : order.Perm tree.entries) (layout : Layout indent order lines) :
    read (unlines lines) = .ok tree := by
  have entries : ∀ entry ∈ order, entry.Writable := fun entry member =>
    writable.entries entry (every.mem_iff.1 member)
  have fills := layout.fills entries (writable.distinct every) (s := Section.empty tree.name)
    fun _ _ => rfl
  rw [writable.filled every] at fills
  obtain ⟨last, -, placed⟩ := fills (Section.empty "root") [] [] 1 rfl
  rw [root] at placed
  have all : Reader.placeAll ⟨Section.empty "root", []⟩ (Line.significantFrom 1 lines) =
      .ok ⟨tree, last⟩ := placed
  unfold read
  rw [significant_unlines (layout.whole entries), all]

namespace Sample

open Margin

/-- A section with a value of each kind and an empty section below it. -/
def surface : Section :=
  .node "surface" [("file", .text "a#b: [1]"), ("ids", .ints [3, -4]), ("on", .bool true)]
    [("ends", .empty "ends")]

def tree : Section := .node "root" [("steps", .int 200)] [("surface", surface)]

/-- The entries of the section, not in the order of their keys. -/
def order : List Entry :=
  [.leaf "on" (.bool true), .branch "ends" (.empty "ends"), .leaf "ids" (.ints [3, -4]),
    .leaf "file" (.text "a#b: [1]")]

theorem nameable : ∀ name ∈ ["file", "ids", "on", "ends", "steps", "surface"], Nameable name := by
  have checked (name : String) (some : name ≠ "")
      (plain : name.toList.all (fun c => isInert c && c != ':') = true)
      (tight : Tight name.toList) : Nameable name :=
    ⟨some, fun c member => by simpa using List.all_eq_true.1 plain c member, tight⟩
  simp only [List.forall_mem_cons]
  refine ⟨?_, ?_, ?_, ?_, ?_, ?_, List.forall_mem_nil _⟩
  all_goals exact checked _ (by decide) (by decide) ⟨rfl, rfl⟩

theorem writable : tree.Writable := by
  have names := nameable
  simp only [List.forall_mem_cons] at names
  obtain ⟨file, ids, on, ends, steps, surface, -⟩ := names
  have nothing : (Section.empty "ends").Writable :=
    .node .nil .nil (List.forall_mem_nil _) (List.forall_mem_nil _) (List.forall_mem_nil _)
  have filled : Sample.surface.Writable :=
    .node (by unfold KeyMap.Sorted; decide) (by unfold KeyMap.Sorted; decide)
      (List.forall_mem_cons.2 ⟨⟨file, by unfold Value.Writable; decide⟩,
        List.forall_mem_cons.2 ⟨⟨ids, trivial⟩, List.forall_mem_singleton.2 ⟨on, trivial⟩⟩⟩)
      (List.forall_mem_singleton.2 ⟨ends, rfl⟩) (List.forall_mem_singleton.2 nothing)
  exact .node (by unfold KeyMap.Sorted; decide) (by unfold KeyMap.Sorted; decide)
    (List.forall_mem_singleton.2 ⟨steps, trivial⟩) (List.forall_mem_singleton.2 ⟨surface, rfl⟩)
    (List.forall_mem_singleton.2 filled)

def body : List (List Char) :=
  [(spaced 2).line "on" "true".toList, (spaced 2).line "ends" [], [],
    (spaced 2).line "ids"
      ('[' :: [','].intercalate [Decimal.digits 3, Decimal.digits (-4)] ++ [']']),
    (spaced 2).line "file" ('"' :: "a#b: [1]".toList ++ ['"'])]

def lines : List (List Char) :=
  (spaced 0).line "surface" [] :: (body ++ [(spaced 0).line "steps" (Decimal.digits 200)])

theorem layout_body : Layout 2 order body := by
  have blank : Idle [] := ⟨by decide, by decide⟩
  refine .leaf (spaced 2) .true ?_
  refine @Layout.branch 3 "ends" (.empty "ends") [] _ [] _ (spaced 2) (by decide) (.refl _)
    .nothing ?_
  refine .idle blank (.leaf (spaced 2) (.ints ?_) (.leaf (spaced 2) (.text _) .nothing))
  exact .cons (item_digits 3) (.cons (item_digits (-4)) .nil)

theorem layout : Layout 0 [.branch "surface" surface, .leaf "steps" (.int 200)] lines := by
  have every : order.Perm surface.entries :=
    (@List.perm_append_comm _ (order.take 2) (order.drop 2)).trans (.swap _ _ _)
  exact .branch (spaced 0) (by decide) every layout_body (.leaf (spaced 0) (.int 200) .nothing)

def text : String :=
  "surface: \n  on: true\n  ends: \n\n  ids: [3,-4]\n  file: \"a#b: [1]\"\nsteps: 200"

theorem read_text : read text = .ok tree := by
  have same : unlines lines = text := by decide
  have every : [Entry.branch "surface" surface, .leaf "steps" (.int 200)].Perm tree.entries :=
    .swap _ _ _
  rw [← same]
  exact read_unlines writable rfl every layout

end Sample

end FluidStructure.Config
