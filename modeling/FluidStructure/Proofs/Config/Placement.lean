import FluidStructure.Config.Reader
import FluidStructure.Proofs.Config.Blanks

/-!
# The sections of a configuration

A description of what a configuration text means that does without open sections: each line that
matters belongs to the section of the last header before it whose reach has not ended.  The reader
builds the tree that the description gives, and refuses a text just if one of its lines is no entry.

While the reader goes through the lines, its open sections know for every indent where a next line
of that indent would belong.
-/

namespace FluidStructure.Config

open FluidStructure.Text

/-! ## Lines as they are written -/

/-- Space, tab or carriage return; a line holds no other blanks. -/
def isSpace (c : Char) : Bool := c = ' ' || c = '\t' || c = '\r'

/-- A line without its comment, with its place among all lines. -/
structure Written where
  number : Nat
  chars : List Char

/-- The lines of a text that matter: comments are gone, and so are lines of nothing but spaces. -/
def written (text : String) : List Written :=
  (((pieces '\n' text.toList).zipIdx 1).map fun line => ⟨line.2, Line.stripComment line.1⟩).filter
    fun line => !line.chars.all isSpace

namespace Written

/-- Spaces and tabs at the start of the line; a tab counts for four. -/
def indent (line : Written) : Nat :=
  let run := line.chars.takeWhile fun c => c = ' ' || c = '\t'
  run.count ' ' + 4 * run.count '\t'

/-- No colon, or nothing in front of it. -/
def Malformed (line : Written) : Prop :=
  ':' ∉ line.chars ∨ (trim line.chars).head? = some ':'

/-- Nothing stands behind the first colon: a header, with this name. -/
def Opens (line : Written) (name : String) : Prop :=
  ∃ before behind, line.chars = before ++ ':' :: behind ∧ ':' ∉ before ∧
    behind.all isSpace = true ∧ name = String.ofList (trim before)

/-- A literal stands behind the first colon: its value is for this key. -/
def Stores (line : Written) (key : String) (value : Value) : Prop :=
  ∃ before behind, line.chars = before ++ ':' :: behind ∧ ':' ∉ before ∧
    behind.all isSpace = false ∧ key = String.ofList (trim before) ∧ value = Literal.parse behind

end Written

/-! ## Entries -/

theorem isBlank_of_isSpace {c : Char} (h : isSpace c = true) : isBlank c = true := by
  unfold isSpace at h
  unfold isBlank
  grind

theorem isSpace_of_isBlank {c : Char} (h : isBlank c = true) (line : c ≠ '\n') :
    isSpace c = true := by
  unfold isBlank at h
  unfold isSpace
  grind

/-- Within a line, trimming leaves nothing just of spaces. -/
theorem trim_eq_nil_iff_all {cs : List Char} (line : '\n' ∉ cs) :
    trim cs = [] ↔ cs.all isSpace = true := by
  rw [trim_eq_nil_iff, List.all_eq_true]
  exact ⟨fun blank c member => isSpace_of_isBlank (blank c member) fun same => line (same ▸ member),
    fun space c member => isBlank_of_isSpace (space c member)⟩

/-- There is one way to split a line at its first colon. -/
theorem split_unique {before behind before' behind' : List Char}
    (same : before ++ ':' :: behind = before' ++ ':' :: behind') (first : ':' ∉ before)
    (first' : ':' ∉ before') : before = before' ∧ behind = behind' := by
  have upTo (before behind : List Char) (first : ':' ∉ before) :
      (before ++ ':' :: behind).takeWhile (· ≠ ':') = before := by
    have other : ∀ c ∈ before, decide (c ≠ ':') = true := fun c member =>
      decide_eq_true fun same => first (same ▸ member)
    rw [List.takeWhile_append_of_pos other, List.takeWhile_cons_of_neg (by decide),
      List.append_nil]
  obtain rfl : before = before' :=
    (upTo before behind first).symm.trans (same ▸ upTo before' behind' first')
  exact ⟨rfl, (List.cons.inj (List.append_cancel_left same)).2⟩

namespace Line

theorem entry?_of_not_mem {content : List Char} (h : ':' ∉ content) : entry? content = none := by
  unfold entry?
  have nothing : content.dropWhile (· ≠ ':') = [] :=
    List.dropWhile_eq_nil_iff.2 fun c member => decide_eq_true fun same => h (same ▸ member)
  rw [nothing]

/-- A line is split at its first colon. -/
theorem entry?_trim {before : List Char} (first : ':' ∉ before) (behind : List Char) :
    entry? (trim (before ++ ':' :: behind)) =
      if (before.dropWhile isBlank).isEmpty then none
      else some (if (trim behind).isEmpty then .header (String.ofList (trim before))
        else .assignment (String.ofList (trim before)) (trim behind)) := by
  have other : ∀ c ∈ before.dropWhile isBlank, decide (c ≠ ':') = true := fun c member =>
    decide_eq_true fun same => first (same ▸ (List.dropWhile_suffix isBlank).subset member)
  rw [trim_append_cons (by decide)]
  unfold entry?
  rw [List.takeWhile_append_of_pos other, List.dropWhile_append_of_pos other,
    List.takeWhile_cons_of_neg (by decide), List.dropWhile_cons_of_neg (by decide),
    List.append_nil]
  dsimp only
  rw [trim_dropWhile, trim_trimRight]

theorem indentWidth_eq (cs : List Char) :
    indentWidth cs = (cs.takeWhile fun c => c = ' ' || c = '\t').count ' ' +
      4 * (cs.takeWhile fun c => c = ' ' || c = '\t').count '\t' := by
  fun_induction indentWidth cs with
  | case1 rest ih =>
    rw [ih, List.takeWhile_cons_of_pos (by decide), List.count_cons_self,
      List.count_cons_of_ne (by decide)]
    omega
  | case2 rest ih =>
    rw [ih, List.takeWhile_cons_of_pos (by decide), List.count_cons_self,
      List.count_cons_of_ne (by decide)]
    omega
  | case3 cs space tab =>
    cases cs with
    | nil => rfl
    | cons c rest =>
      rw [List.takeWhile_cons_of_neg]
      · rfl
      · simp only [Bool.or_eq_true, decide_eq_true_eq]
        rintro (rfl | rfl)
        · exact space rest rfl
        · exact tab rest rfl

end Line

namespace Written

variable {line : Written} {name other key : String} {value value' : Value}

/-- The line as the reader sees it. -/
def toLine (line : Written) : Line := ⟨line.number, Line.indentWidth line.chars, trim line.chars⟩

theorem indent_toLine (line : Written) : line.toLine.indent = line.indent :=
  Line.indentWidth_eq line.chars

theorem Opens.unique (h : line.Opens name) (k : line.Opens other) : name = other := by
  obtain ⟨before, behind, split, first, -, rfl⟩ := h
  obtain ⟨before', behind', split', first', -, rfl⟩ := k
  obtain ⟨rfl, -⟩ := split_unique (split.symm.trans split') first first'
  rfl

theorem Stores.unique (h : line.Stores key value) (k : line.Stores other value') :
    key = other ∧ value = value' := by
  obtain ⟨before, behind, split, first, -, rfl, rfl⟩ := h
  obtain ⟨before', behind', split', first', -, rfl, rfl⟩ := k
  obtain ⟨rfl, rfl⟩ := split_unique (split.symm.trans split') first first'
  exact ⟨rfl, rfl⟩

theorem Stores.not_opens (h : line.Stores key value) : ¬ line.Opens name := by
  rintro ⟨before', behind', split', first', blank, -⟩
  obtain ⟨before, behind, split, first, some, -, -⟩ := h
  obtain ⟨rfl, rfl⟩ := split_unique (split.symm.trans split') first first'
  rw [blank] at some
  cases some

/-- What the reader makes of a line. -/
inductive Read (line : Written) : Option Line.Entry → Prop
  | malformed (malformed : line.Malformed) : Read line none
  | header {name : String} (wellFormed : ¬ line.Malformed) (opens : line.Opens name) :
    Read line (some (.header name))
  | assignment {key : String} {literal : List Char} (wellFormed : ¬ line.Malformed)
      (stores : line.Stores key (Literal.parse literal)) :
    Read line (some (.assignment key literal))

theorem read_entry (whole : '\n' ∉ line.chars) : line.Read (Line.entry? line.toLine.content) := by
  show line.Read (Line.entry? (trim line.chars))
  by_cases colon : ':' ∈ line.chars
  · obtain ⟨before, behind, split, first⟩ := List.eq_append_cons_of_mem colon
    have head : (trim line.chars).head? = some ':' ↔ (before.dropWhile isBlank).isEmpty := by
      rw [split, trim_append_cons (by decide)]
      cases rest : before.dropWhile isBlank with
      | nil => simp
      | cons c rest =>
        have member : c ∈ before :=
          (List.dropWhile_suffix isBlank).subset (rest ▸ List.mem_cons_self)
        have other : c ≠ ':' := fun same => first (same ▸ member)
        simpa using other
    have inside : '\n' ∉ behind := fun member =>
      whole (split ▸ List.mem_append_right _ (List.mem_cons_of_mem _ member))
    rw [split, Line.entry?_trim first]
    split
    · rename_i empty
      exact .malformed (.inr (head.2 empty))
    · rename_i some
      have wellFormed : ¬ line.Malformed := by
        rintro (missing | front)
        · exact missing colon
        · exact some (head.1 front)
      split
      · rename_i blank
        exact .header wellFormed ⟨before, behind, split, first,
          (trim_eq_nil_iff_all inside).1 (List.isEmpty_iff.1 blank), rfl⟩
      · rename_i literal
        refine .assignment wellFormed ⟨before, behind, split, first, ?_, rfl, ?_⟩
        · rwa [← Bool.not_eq_true, ← trim_eq_nil_iff_all inside, ← List.isEmpty_iff]
        · unfold Literal.parse
          rw [trim_trim]
  · rw [Line.entry?_of_not_mem fun member => colon (mem_of_mem_trim member)]
    exact .malformed (.inl colon)

end Written

theorem Line.stripCommentFrom_prefix (quote : Option Char) (cs : List Char) :
    Line.stripCommentFrom quote cs <+: cs := by
  fun_induction Line.stripCommentFrom quote cs with
  | case1 => exact List.prefix_rfl
  | case2 c rest quote ih => exact List.prefix_cons_inj c |>.2 ih
  | case3 c rest quotes ih => exact List.prefix_cons_inj c |>.2 ih
  | case4 => exact List.nil_prefix
  | case5 c rest _ _ ih => exact List.prefix_cons_inj c |>.2 ih

theorem Line.read?_eq {raw : List Char} (number : Nat) (inside : '\n' ∉ Line.stripComment raw) :
    Line.read? number raw =
      if (Line.stripComment raw).all isSpace then none
      else some (Written.toLine ⟨number, Line.stripComment raw⟩) := by
  show (if (trim (Line.stripComment raw)).isEmpty then none else _) = _
  simp only [List.isEmpty_iff, trim_eq_nil_iff_all inside]
  rfl

theorem Line.significantFrom_eq (number : Nat) {raws : List (List Char)}
    (whole : ∀ raw ∈ raws, '\n' ∉ raw) :
    Line.significantFrom number raws =
      (((raws.zipIdx number).map fun line => (⟨line.2, Line.stripComment line.1⟩ : Written)).filter
        fun line => !line.chars.all isSpace).map Written.toLine := by
  induction raws generalizing number with
  | nil => rfl
  | cons raw rest ih =>
    have inside : '\n' ∉ Line.stripComment raw := fun member =>
      whole raw List.mem_cons_self ((Line.stripCommentFrom_prefix _ _).subset member)
    rw [List.zipIdx_cons, List.map_cons, List.filter_cons]
    unfold Line.significantFrom
    rw [Line.read?_eq number inside,
      ih _ fun raw member => whole raw (List.mem_cons_of_mem _ member)]
    cases (Line.stripComment raw).all isSpace with
    | true => rfl
    | false => rfl

/-- The lines that matter are those that are written. -/
theorem significant_eq (text : String) :
    Line.significant text.toList = (written text).map Written.toLine :=
  Line.significantFrom_eq 1 fun _ member => not_mem_of_mem_pieces member

theorem not_mem_of_mem_written {text : String} {line : Written} (h : line ∈ written text) :
    '\n' ∉ line.chars := by
  obtain ⟨raw, member, rfl⟩ := List.mem_map.1 (List.mem_filter.1 h).1
  exact fun inside => not_mem_of_mem_pieces (List.fst_mem_of_mem_zipIdx member)
    ((Line.stripCommentFrom_prefix _ _).subset inside)

/-! ## Where a line belongs -/

/-- The section of a header goes on behind these lines, for a line of that indent. -/
def Written.Reaches (header : Written) (between : List Written) (indent : Nat) : Prop :=
  header.indent < indent ∧ ∀ line ∈ between, header.indent < line.indent

/-- After these lines, a line of that indent belongs to the section with this path: it is opened by
the last header that reaches so far. -/
inductive Belongs : List Written → Nat → List String → Prop
  | under {before between : List Written} {header : Written} {name : String} {path : List String}
      {indent : Nat} (opens : header.Opens name) (reaches : header.Reaches between indent)
      (last : ∀ first later other, between = first ++ other :: later →
        (∃ name, other.Opens name) → ¬ other.Reaches later indent)
      (parent : Belongs before header.indent path) :
      Belongs (before ++ header :: between) indent (path ++ [name])
  | root {earlier : List Written} {indent : Nat}
      (none : ∀ before between header, earlier = before ++ header :: between →
        (∃ name, header.Opens name) → ¬ header.Reaches between indent) :
      Belongs earlier indent []

/-- The tree of a list of lines: a header opens a section, if there is none of that name yet, and
any other line stores a value. -/
inductive Built : List Written → Section → Prop
  | nothing : Built [] (Section.empty "root")
  | header {lines : List Written} {line : Written} {path : List String} {name : String}
      {tree : Section} (built : Built lines tree) (place : Belongs lines line.indent path)
      (opens : line.Opens name) : Built (lines ++ [line]) (tree.updateAt id (path ++ [name]))
  | value {lines : List Written} {line : Written} {path : List String} {key : String}
      {value : Value} {tree : Section} (built : Built lines tree)
      (place : Belongs lines line.indent path) (stores : line.Stores key value) :
      Built (lines ++ [line]) (tree.updateAt (fun s => s.set key value) path)

/-! ## The next line -/

section Next

variable {earlier before between : List Written} {line header : Written} {name : String}
  {path path' : List String} {indent : Nat}

/-- One of some lines and a last one: it is the last one, or one of the others. -/
theorem split_concat (split : earlier ++ [line] = before ++ header :: between) :
    (between = [] ∧ before = earlier ∧ header = line) ∨
      ∃ rest, between = rest ++ [line] ∧ earlier = before ++ header :: rest := by
  rcases List.eq_nil_or_concat between with rfl | ⟨rest, last, rfl⟩
  · obtain ⟨rfl, same⟩ := List.append_inj' split rfl
    exact .inl ⟨rfl, rfl, (List.cons.inj same).1.symm⟩
  · rw [List.concat_eq_append, ← List.cons_append, ← List.append_assoc] at split
    obtain ⟨rfl, same⟩ := List.append_inj' split rfl
    obtain rfl := (List.cons.inj same).1
    exact .inr ⟨rest, List.concat_eq_append, rfl⟩

theorem Written.reaches_concat :
    header.Reaches (between ++ [line]) indent ↔
      header.Reaches between indent ∧ header.indent < line.indent := by
  unfold Written.Reaches
  rw [List.forall_mem_append, List.forall_mem_singleton, and_assoc]

/-- Behind a line that is not further in, a header reaches as far as before. -/
theorem Written.reaches_past (past : indent ≤ line.indent) :
    header.Reaches (between ++ [line]) indent ↔ header.Reaches between indent := by
  rw [reaches_concat, and_iff_left_of_imp]
  exact fun reaches => Nat.lt_of_lt_of_le reaches.1 past

/-- Behind a line that is further out, a header reaches as far as that line. -/
theorem Written.reaches_beside (beside : line.indent < indent) :
    header.Reaches (between ++ [line]) indent ↔ header.Reaches between line.indent := by
  rw [reaches_concat]
  exact ⟨fun ⟨⟨_, deeper⟩, further⟩ => ⟨further, deeper⟩,
    fun ⟨further, deeper⟩ => ⟨⟨Nat.lt_trans further beside, deeper⟩, further⟩⟩

/-- A line that no header under it can reach leaves the places as they are. -/
theorem Belongs.concat {bound : Nat} (place : Belongs earlier bound path)
    (same : ∀ header between, Written.Reaches header (between ++ [line]) indent ↔
      Written.Reaches header between bound)
    (plain : (∃ name, line.Opens name) → ¬ line.Reaches [] indent) :
    Belongs (earlier ++ [line]) indent path := by
  cases place with
  | @under before between header name path _ opens reaches last parent =>
    rw [List.append_assoc, List.cons_append]
    refine .under opens ((same _ _).2 reaches) (fun first later other split some => ?_) parent
    rcases split_concat split with ⟨rfl, rfl, rfl⟩ | ⟨rest, rfl, rfl⟩
    · exact plain some
    · exact mt (same _ _).1 (last first rest other rfl some)
  | root none =>
    refine .root fun before between header split some => ?_
    rcases split_concat split with ⟨rfl, rfl, rfl⟩ | ⟨rest, rfl, rfl⟩
    · exact plain some
    · exact mt (same _ _).1 (none before rest header rfl some)

theorem Belongs.past (place : Belongs earlier indent path) (past : indent ≤ line.indent) :
    Belongs (earlier ++ [line]) indent path :=
  place.concat (fun _ _ => Written.reaches_past past) fun _ reaches =>
    absurd reaches.1 (Nat.not_lt.2 past)

theorem Belongs.beside (place : Belongs earlier line.indent path) (beside : line.indent < indent)
    (plain : ∀ name, ¬ line.Opens name) : Belongs (earlier ++ [line]) indent path :=
  place.concat (fun _ _ => Written.reaches_beside beside) fun ⟨name, opens⟩ =>
    absurd opens (plain name)

theorem Belongs.within (place : Belongs earlier line.indent path) (within : line.indent < indent)
    (opens : line.Opens name) : Belongs (earlier ++ [line]) indent (path ++ [name]) := by
  refine .under opens ⟨within, List.forall_mem_nil _⟩ (fun first later other split _ => ?_) place
  exact absurd split (by simp)

/-- Of two headers that both reach a line, only the later one can be the last that does. -/
theorem Belongs.unique (place : Belongs earlier indent path)
    (place' : Belongs earlier indent path') : path = path' := by
  induction place generalizing path' with
  | @under before between header name path indent opens reaches last parent ih =>
    generalize all : before ++ header :: between = earlier at place'
    cases place' with
    | @under before' between' header' name' path' _ opens' reaches' last' parent' =>
      rcases List.append_eq_append_iff.1 all with ⟨more, rfl, rest⟩ | ⟨more, rfl, rest⟩
      · cases more with
        | nil =>
          obtain ⟨rfl, rfl⟩ := List.cons.inj rest
          rw [List.append_nil] at parent'
          rw [ih parent', opens.unique opens']
        | cons next more =>
          obtain ⟨rfl, rfl⟩ := List.cons.inj rest
          exact absurd reaches' (last _ _ _ rfl ⟨_, opens'⟩)
      · cases more with
        | nil =>
          obtain ⟨rfl, rfl⟩ := List.cons.inj rest
          rw [List.append_nil] at ih
          rw [ih parent', opens.unique opens']
        | cons next more =>
          obtain ⟨rfl, rfl⟩ := List.cons.inj rest
          exact absurd reaches (last' _ _ _ rfl ⟨_, opens⟩)
    | root none => exact absurd reaches (none _ _ _ all.symm ⟨_, opens⟩)
  | root none =>
    cases place' with
    | under opens reaches last parent => exact absurd reaches (none _ _ _ rfl ⟨_, opens⟩)
    | root _ => rfl

end Next

/-- A list of lines has one tree. -/
theorem Built.unique {lines : List Written} {tree tree' : Section} (built : Built lines tree)
    (built' : Built lines tree') : tree = tree' := by
  induction built generalizing tree' with
  | nothing =>
    generalize all : ([] : List Written) = lines at built'
    cases built' with
    | nothing => rfl
    | header => simp at all
    | value => simp at all
  | @header lines line path name tree _ place opens ih =>
    generalize all : lines ++ [line] = lines' at built'
    cases built' with
    | nothing => simp at all
    | header built' place' opens' =>
      obtain ⟨rfl, same⟩ := List.append_inj' all rfl
      obtain rfl := (List.cons.inj same).1
      rw [ih built', place.unique place', opens.unique opens']
    | value built' place' stores' =>
      obtain ⟨rfl, same⟩ := List.append_inj' all rfl
      obtain rfl := (List.cons.inj same).1
      exact absurd opens stores'.not_opens
  | @value lines line path key value tree _ place stores ih =>
    generalize all : lines ++ [line] = lines' at built'
    cases built' with
    | nothing => simp at all
    | header built' place' opens' =>
      obtain ⟨rfl, same⟩ := List.append_inj' all rfl
      obtain rfl := (List.cons.inj same).1
      exact absurd opens' stores.not_opens
    | value built' place' stores' =>
      obtain ⟨rfl, same⟩ := List.append_inj' all rfl
      obtain rfl := (List.cons.inj same).1
      obtain ⟨rfl, rfl⟩ := stores.unique stores'
      rw [ih built', place.unique place']

/-! ## The reader -/

namespace Reader

/-- Where the reader stands after some lines: it has built their tree, and its open sections know
where a next line belongs. -/
structure Tracks (lines : List Written) (st : State) : Prop where
  built : Built lines st.root
  place : ∀ indent, Belongs lines indent (innermost (stillOpen indent st.opened))

theorem tracks_start : Tracks [] ⟨Section.empty "root", []⟩ where
  built := .nothing
  place _ := .root fun _ _ _ split => by simp at split

theorem stillOpen_cons_of_le {indent : Nat} {o : OpenSection} (h : indent ≤ o.indent)
    (opened : List OpenSection) : stillOpen indent (o :: opened) = stillOpen indent opened :=
  List.dropWhile_cons_of_pos (decide_eq_true h)

theorem stillOpen_cons_of_lt {indent : Nat} {o : OpenSection} (h : o.indent < indent)
    (opened : List OpenSection) : stillOpen indent (o :: opened) = o :: opened :=
  List.dropWhile_cons_of_neg fun closes => Nat.not_le.2 h (of_decide_eq_true closes)

/-- What a line closes, one that is not further in closes, too. -/
theorem stillOpen_past {indent bound : Nat} (h : indent ≤ bound) (opened : List OpenSection) :
    stillOpen indent (stillOpen bound opened) = stillOpen indent opened := by
  induction opened with
  | nil => rfl
  | cons o rest ih =>
    rcases Nat.lt_or_ge o.indent bound with stays | closes
    · rw [stillOpen_cons_of_lt stays]
    · rw [stillOpen_cons_of_le closes, ih, stillOpen_cons_of_le (Nat.le_trans h closes)]

/-- What a line leaves open, one that is not further out leaves open, too. -/
theorem stillOpen_within {indent bound : Nat} (h : bound ≤ indent) (opened : List OpenSection) :
    stillOpen indent (stillOpen bound opened) = stillOpen bound opened := by
  induction opened with
  | nil => rfl
  | cons o rest ih =>
    rcases Nat.lt_or_ge o.indent bound with stays | closes
    · rw [stillOpen_cons_of_lt stays, stillOpen_cons_of_lt (Nat.lt_of_lt_of_le stays h)]
    · rw [stillOpen_cons_of_le closes, ih]

/-- One line: it is no entry and refused, or it comes to its place. -/
theorem Tracks.next {lines : List Written} {line : Written} {st : State}
    (tracks : Tracks lines st) (whole : '\n' ∉ line.chars) :
    (line.Malformed ∧ Reader.place st line.toLine =
        .error (.configLine line.number (String.ofList (trim line.chars)))) ∨
      ¬ line.Malformed ∧ ∃ next, Reader.place st line.toLine = .ok next ∧
        Tracks (lines ++ [line]) next := by
  have belongs := tracks.place line.indent
  have past {indent : Nat} (h : indent ≤ line.indent) :
      Belongs (lines ++ [line]) indent
        (innermost (stillOpen indent (stillOpen line.indent st.opened))) := by
    rw [stillOpen_past h]
    exact (tracks.place indent).past h
  unfold Reader.place
  rw [line.indent_toLine]
  generalize line.read_entry whole = read
  revert read
  cases Line.entry? line.toLine.content with
  | none =>
    intro read
    cases read with
    | malformed malformed => exact .inl ⟨malformed, rfl⟩
  | some entry =>
    intro read
    cases read with
    | header wellFormed opens =>
      refine .inr ⟨wellFormed, _, rfl, tracks.built.header belongs opens, fun indent => ?_⟩
      dsimp only
      rcases Nat.lt_or_ge line.indent indent with within | closes
      · rw [stillOpen_cons_of_lt within]
        exact belongs.within within opens
      · rw [stillOpen_cons_of_le closes]
        exact past closes
    | assignment wellFormed stores =>
      refine .inr ⟨wellFormed, _, rfl, tracks.built.value belongs stores, fun indent => ?_⟩
      dsimp only
      rcases Nat.lt_or_ge line.indent indent with beside | closes
      · rw [stillOpen_within (Nat.le_of_lt beside)]
        exact belongs.beside beside fun _ => stores.not_opens
      · exact past closes

/-- All lines: the first that is no entry is refused, or all come to their places. -/
theorem Tracks.all {lines rest : List Written} {st : State} (tracks : Tracks lines st)
    (whole : ∀ line ∈ rest, '\n' ∉ line.chars) :
    (∃ before line after, rest = before ++ line :: after ∧ (∀ fine ∈ before, ¬ fine.Malformed) ∧
      line.Malformed ∧ Reader.placeAll st (rest.map Written.toLine) =
        .error (.configLine line.number (String.ofList (trim line.chars)))) ∨
      (∀ line ∈ rest, ¬ line.Malformed) ∧
        ∃ last, Reader.placeAll st (rest.map Written.toLine) = .ok last ∧
          Tracks (lines ++ rest) last := by
  induction rest generalizing lines st with
  | nil => exact .inr ⟨List.forall_mem_nil _, st, rfl, by rwa [List.append_nil]⟩
  | cons line rest ih =>
    obtain ⟨here, later⟩ := List.forall_mem_cons.1 whole
    rw [List.map_cons]
    unfold Reader.placeAll
    rcases tracks.next here with ⟨malformed, refused⟩ | ⟨wellFormed, next, placed, tracks⟩
    · rw [refused]
      exact .inl ⟨[], line, rest, rfl, List.forall_mem_nil _, malformed, rfl⟩
    · rw [placed]
      rcases ih tracks later with ⟨before, bad, after, rfl, fine, malformed, refused⟩ |
          ⟨fine, last, placed, tracks⟩
      · exact .inl ⟨line :: before, bad, after, rfl, List.forall_mem_cons.2 ⟨wellFormed, fine⟩,
          malformed, refused⟩
      · rw [List.append_assoc, List.singleton_append] at tracks
        exact .inr ⟨List.forall_mem_cons.2 ⟨wellFormed, fine⟩, last, placed, tracks⟩

end Reader

/-- The first line that is no entry is refused; if there is none, the tree is the one that the lines
describe. -/
theorem read_cases (text : String) :
    (∃ before line after, written text = before ++ line :: after ∧
      (∀ fine ∈ before, ¬ fine.Malformed) ∧ line.Malformed ∧
      read text = .error (.configLine line.number (String.ofList (trim line.chars)))) ∨
    (∀ line ∈ written text, ¬ line.Malformed) ∧
      ∃ tree, read text = .ok tree ∧ Built (written text) tree := by
  unfold read
  rw [significant_eq]
  rcases Reader.tracks_start.all fun _ member => not_mem_of_mem_written member with
    ⟨before, line, after, split, fine, malformed, refused⟩ | ⟨fine, last, placed, tracks⟩
  · rw [refused]
    exact .inl ⟨before, line, after, split, fine, malformed, rfl⟩
  · rw [placed]
    exact .inr ⟨fine, last.root, rfl, tracks.built⟩

/-- A text is refused just if some line is no entry, and the refusal names the first such line.
Any other text gives the tree that its lines describe. -/
theorem read_describes (text : String) :
    ((∃ fault, read text = .error fault) ↔ ∃ line ∈ written text, line.Malformed) ∧
    (∀ fault, read text = .error fault → fault.kind = .invalidArgument ∧
      ∃ before line after, written text = before ++ line :: after ∧
        (∀ fine ∈ before, ¬ fine.Malformed) ∧ line.Malformed ∧
        fault = .configLine line.number (String.ofList (trim line.chars))) ∧
    ∀ tree, read text = .ok tree ↔
      (∀ line ∈ written text, ¬ line.Malformed) ∧ Built (written text) tree := by
  rcases read_cases text with ⟨before, line, after, split, fine, malformed, refused⟩ |
      ⟨fine, result, placed, built⟩
  · have member : line ∈ written text := by
      rw [split]
      exact List.mem_append_right _ List.mem_cons_self
    refine ⟨⟨fun _ => ⟨line, member, malformed⟩, fun _ => ⟨_, refused⟩⟩, fun fault failed => ?_,
      fun tree => ⟨fun placed => ?_, fun ⟨fine, _⟩ => absurd malformed (fine line member)⟩⟩
    · obtain rfl := Except.error.inj (refused.symm.trans failed)
      exact ⟨rfl, before, line, after, split, fine, malformed, rfl⟩
    · cases refused.symm.trans placed
  · refine ⟨⟨fun ⟨fault, failed⟩ => ?_, fun ⟨line, member, malformed⟩ =>
      absurd malformed (fine line member)⟩, fun fault failed => ?_, fun tree => ⟨fun same => ?_,
      fun ⟨_, built'⟩ => ?_⟩⟩
    · cases placed.symm.trans failed
    · cases placed.symm.trans failed
    · obtain rfl := Except.ok.inj (placed.symm.trans same)
      exact ⟨fine, built⟩
    · rw [placed, built.unique built']

end FluidStructure.Config
