import FluidStructure.Proofs.Config.Paths
import FluidStructure.Proofs.Config.Revisions

/-!
# One configuration behind another

A text that begins at the outermost level can stand behind any other text.  What it says is then
added to what the other one says, section by section, and where both set a value its own one counts.

The first line of the second text closes all sections that the first one leaves open, and from there
on every line does to the merged tree what it does to the tree of the second text alone.
-/

namespace FluidStructure.Config

open FluidStructure.Text

namespace Section

mutual

/-- The section with all that another one holds; where both have a value, that of the other one. -/
def merge (s : Section) : Section → Section
  | .node _ values subsections =>
    .node s.name (s.values.putAll values) (mergeAll s.subsections subsections)

/-- Subsections of one name are merged. -/
def mergeAll (m : KeyMap Section) : List (String × Section) → KeyMap Section
  | [] => m
  | (name, child) :: rest =>
    mergeAll (m.put name (match m.get? name with | some own => own.merge child | none => child)) rest

end

variable {s t : Section}

theorem merge_empty (s : Section) (name : String) : s.merge (empty name) = s := by
  cases s with
  | node => rfl

theorem get?_mergeAll {entries : KeyMap Section} (h : entries.Sorted) (m : KeyMap Section)
    (name : String) :
    (mergeAll m entries).get? name = (m.get? name).merge merge (entries.get? name) := by
  induction entries generalizing m with
  | nil => simp [mergeAll, KeyMap.get?]
  | cons entry rest ih =>
    obtain ⟨other, child⟩ := entry
    rw [mergeAll, ih h.tail]
    by_cases same : other = name
    · subst same
      rw [KeyMap.get?_put_self, h.get?_tail]
      cases m.get? other with
      | none => simp [KeyMap.get?]
      | some own => simp [KeyMap.get?]
    · rw [KeyMap.get?_put_of_ne _ _ same]
      simp [KeyMap.get?, same]

theorem sorted_mergeAll {m : KeyMap Section} (h : m.Sorted) (entries : List (String × Section)) :
    (mergeAll m entries).Sorted := by
  induction entries generalizing m with
  | nil => exact h
  | cons entry rest ih => exact ih (h.put _ _)

theorem merge_eq (s t : Section) :
    s.merge t = .node s.name (s.values.putAll t.values) (mergeAll s.subsections t.subsections) := by
  cases t with
  | node => rfl

/-! ## Changes of a merged section -/

theorem merge_set (h : s.Ordered) (k : t.Ordered) (key : String) (value : Value) :
    s.merge (t.set key value) = (s.merge t).set key value := by
  have values : s.values.putAll (t.values.put key value) =
      (s.values.putAll t.values).put key value := by
    refine (h.values.putAll _).ext ((h.values.putAll _).put key value) fun other => ?_
    rw [(k.values.put key value).get?_putAll]
    by_cases same : key = other
    · subst same
      rw [KeyMap.get?_put_self, KeyMap.get?_put_self]
      rfl
    · rw [KeyMap.get?_put_of_ne _ _ same, KeyMap.get?_put_of_ne _ _ same, k.values.get?_putAll]
  rw [merge_eq, merge_eq]
  exact congrArg (Section.node s.name · (mergeAll s.subsections t.subsections)) values

theorem subsections_merge (s t : Section) :
    (s.merge t).subsections = mergeAll s.subsections t.subsections := by
  rw [merge_eq]
  rfl

theorem childOrEmpty_merge (k : t.Ordered) (name : String) :
    (s.merge t).childOrEmpty name =
      match s.subsections.get? name with
      | some own => own.merge (t.childOrEmpty name)
      | none => t.childOrEmpty name := by
  unfold childOrEmpty
  rw [subsections_merge, get?_mergeAll k.subsections]
  cases s.subsections.get? name with
  | none => rw [Option.merge_none_left]
  | some own =>
    cases t.subsections.get? name with
    | none => simp [merge_empty]
    | some child => simp

/-- A change of the section that is merged in is a change of the result. -/
theorem merge_updateAt {change : Section → Section}
    (commutes : ∀ s t : Section, s.Ordered → t.Ordered → s.merge (change t) = change (s.merge t))
    (path : List String) (h : s.Ordered) (k : t.Ordered) :
    s.merge (t.updateAt change path) = (s.merge t).updateAt change path := by
  induction path generalizing s t with
  | nil => exact commutes s t h k
  | cons name path ih =>
    have subsections :
        mergeAll s.subsections
            (t.subsections.put name (updateAt change path (t.childOrEmpty name))) =
          (mergeAll s.subsections t.subsections).put name
            (updateAt change path ((s.merge t).childOrEmpty name)) := by
      refine (sorted_mergeAll h.subsections _).ext
        ((sorted_mergeAll h.subsections _).put _ _) fun other => ?_
      rw [get?_mergeAll (k.subsections.put _ _)]
      by_cases same : name = other
      · subst same
        rw [KeyMap.get?_put_self, KeyMap.get?_put_self, childOrEmpty_merge k]
        cases found : s.subsections.get? name with
        | none => rfl
        | some own => rw [Option.merge_some_some, ih (h.child found) (k.childOrEmpty name)]
      · rw [KeyMap.get?_put_of_ne _ _ same, KeyMap.get?_put_of_ne _ _ same,
          get?_mergeAll k.subsections]
    rw [merge_eq]
    unfold updateAt
    rw [subsections_merge, ← subsections, merge_eq s t]
    rfl

/-! ## What a merged section holds -/

theorem at?_merge (k : t.Ordered) (path : List String) :
    (s.merge t).at? path = (s.at? path).merge merge (t.at? path) := by
  induction path generalizing s t with
  | nil => rfl
  | cons name path ih =>
    unfold at?
    rw [subsections_merge, get?_mergeAll k.subsections]
    cases s.subsections.get? name with
    | none => simp
    | some own =>
      cases found : t.subsections.get? name with
      | none => simp
      | some child => exact ih (k.child found)

theorem value?_merge (k : t.Ordered) (path : List String) (key : String) :
    (s.merge t).value? path key = (t.value? path key).or (s.value? path key) := by
  unfold value?
  rw [at?_merge k]
  cases s.at? path with
  | none => simp
  | some own =>
    cases found : t.at? path with
    | none => simp
    | some child =>
      rw [Option.merge_some_some, merge_eq]
      exact (k.at? found).values.get?_putAll own.values key

end Section

/-! ## Reading the second text -/

namespace Reader

/-- The reader with a merged tree. -/
def State.over (root : Section) (st : State) : State := ⟨root.merge st.root, st.opened⟩

variable {root : Section} {st next : State} {line : Line} {lines : List Line}

theorem place_ordered (ordered : st.root.Ordered) (placed : place st line = .ok next) :
    next.root.Ordered := by
  unfold place at placed
  dsimp only at placed
  split at placed
  · cases placed
  · obtain rfl := Except.ok.inj placed
    exact ordered.updateAt (fun _ same => same) _
  · obtain rfl := Except.ok.inj placed
    exact ordered.updateAt (fun _ same => same.set _ _) _

theorem place_over (h : root.Ordered) (k : st.root.Ordered) (line : Line) :
    place (st.over root) line = (place st line).map (State.over root) := by
  unfold place State.over
  dsimp only
  cases Line.entry? line.content with
  | none => rfl
  | some entry =>
    cases entry with
    | header name =>
      dsimp only
      rw [← Section.merge_updateAt (fun _ _ _ _ => rfl) _ h k]
      rfl
    | assignment key literal =>
      dsimp only
      rw [← Section.merge_updateAt (fun _ _ h k => Section.merge_set h k _ _) _ h k]
      rfl

/-- Every line does to the merged tree what it does to the tree itself. -/
theorem placeAll_over (h : root.Ordered) (k : st.root.Ordered) (lines : List Line) :
    placeAll (st.over root) lines = (placeAll st lines).map (State.over root) := by
  induction lines generalizing st with
  | nil => rfl
  | cons line rest ih =>
    unfold placeAll
    rw [place_over h k]
    cases placed : place st line with
    | error fault => rfl
    | ok next => exact ih (place_ordered k placed)

theorem placeAll_ordered (ordered : st.root.Ordered) (placed : placeAll st lines = .ok next) :
    next.root.Ordered := by
  induction lines generalizing st with
  | nil =>
    obtain rfl := Except.ok.inj placed
    exact ordered
  | cons line rest ih =>
    unfold placeAll at placed
    cases first : place st line with
    | error fault =>
      rw [first] at placed
      cases placed
    | ok between =>
      rw [first] at placed
      exact ih (place_ordered ordered first) placed

/-- A line at the outermost level closes all sections. -/
theorem stillOpen_zero (opened : List OpenSection) : stillOpen 0 opened = [] := by
  unfold stillOpen
  exact List.dropWhile_eq_nil_iff.2 fun o _ => decide_eq_true (Nat.zero_le o.indent)

/-- It does not matter which sections are open before such a line. -/
theorem placeAll_outermost (outermost : ∀ line ∈ lines.head?, line.indent = 0)
    (root : Section) (opened : List OpenSection) :
    (placeAll ⟨root, opened⟩ lines).map State.root =
      (placeAll ⟨root, []⟩ lines).map State.root := by
  cases lines with
  | nil => rfl
  | cons line rest =>
    have same : place ⟨root, opened⟩ line = place ⟨root, []⟩ line := by
      unfold place
      dsimp only
      rw [outermost line rfl, stillOpen_zero, stillOpen_zero]
    unfold placeAll
    rw [same]

end Reader

theorem ordered_of_read {text : String} {tree : Section} (h : read text = .ok tree) :
    tree.Ordered := by
  rw [read_eq] at h
  cases placed : Reader.placeAll ⟨Section.empty "root", []⟩ (Line.significant text.toList) with
  | error fault =>
    rw [placed] at h
    cases h
  | ok last =>
    rw [placed] at h
    obtain rfl := Except.ok.inj h
    exact Reader.placeAll_ordered (.empty "root") placed

/-! ## Two texts -/

theorem pieces_append (separator : Char) (first second : List Char) :
    pieces separator (first ++ separator :: second) =
      pieces separator first ++ pieces separator second := by
  rw [pieces_eq_splitOn, pieces_eq_splitOn, pieces_eq_splitOn, List.splitOn_append_cons_self]

theorem significant_append (first second : List Char) :
    Line.significant (first ++ '\n' :: second) = Line.significant first ++
      Line.significantFrom (1 + (pieces '\n' first).length) (pieces '\n' second) := by
  unfold Line.significant
  rw [pieces_append, Reader.significantFrom_append]

theorem head?_significant {text : String}
    (outermost : ∀ line ∈ (written text).head?, line.indent = 0) :
    ∀ line ∈ (Line.significant text.toList).head?, line.indent = 0 := by
  intro line member
  rw [significant_eq, List.head?_map] at member
  obtain ⟨source, first, rfl⟩ := Option.map_eq_some_iff.1 member
  rw [Written.indent_toLine]
  exact outermost source first

theorem toOption_read_append (first : String) {second : String}
    (outermost : ∀ line ∈ (written second).head?, line.indent = 0) :
    (read (first ++ "\n" ++ second)).toOption =
      (read first).toOption.bind fun tree => (read second).toOption.map tree.merge := by
  have lines : (first ++ "\n" ++ second).toList = first.toList ++ '\n' :: second.toList := by simp
  rw [read_eq, read_eq, read_eq, lines, significant_append, Reader.placeAll_append]
  cases placed : Reader.placeAll ⟨Section.empty "root", []⟩ (Line.significant first.toList) with
  | error fault => rfl
  | ok st =>
    have root : (⟨st.root, []⟩ : Reader.State) =
        Reader.State.over st.root ⟨Section.empty "root", []⟩ :=
      congrArg (Reader.State.mk · []) (st.root.merge_empty "root").symm
    have renumbered : (Line.significantFrom (1 + (pieces '\n' first.toList).length)
        (pieces '\n' second.toList)).map Line.gist =
          (Line.significant second.toList).map Line.gist := by
      unfold Line.significant
      rw [Line.map_gist_significantFrom, Line.map_gist_significantFrom]
    calc ((Reader.placeAll st (Line.significantFrom _ _)).map Reader.State.root).toOption
        = ((Reader.placeAll st (Line.significant second.toList)).map
            Reader.State.root).toOption := by
          rw [toOption_map, Reader.toOption_placeAll renumbered, ← toOption_map]
      _ = ((Reader.placeAll ⟨st.root, []⟩ (Line.significant second.toList)).map
            Reader.State.root).toOption := by
          rw [Reader.placeAll_outermost (head?_significant outermost) st.root st.opened]
      _ = (((Reader.placeAll ⟨Section.empty "root", []⟩ (Line.significant second.toList)).map
            (Reader.State.over st.root)).map Reader.State.root).toOption := by
          rw [root, Reader.placeAll_over (Reader.placeAll_ordered (.empty "root") placed)
            (.empty "root")]
      _ = _ := by
          cases Reader.placeAll ⟨Section.empty "root", []⟩
            (Line.significant second.toList) with
          | error fault => rfl
          | ok last => rfl

/-- A text that begins at the outermost level, behind another one.  The two are refused just if one of
them is.  Otherwise they give the merged tree: it has the sections of both and no others, and under
each key the value that the second text sets there, or else that of the first one. -/
theorem read_append (first second : String)
    (outermost : ∀ line ∈ (written second).head?, line.indent = 0) :
    ((∃ fault, read (first ++ "\n" ++ second) = .error fault) ↔
      (∃ fault, read first = .error fault) ∨ ∃ fault, read second = .error fault) ∧
    ∀ tree later, read first = .ok tree → read second = .ok later →
      read (first ++ "\n" ++ second) = .ok (tree.merge later) ∧
      (∀ path, ((tree.merge later).at? path).isSome ↔
        (tree.at? path).isSome ∨ (later.at? path).isSome) ∧
      ∀ path key, (tree.merge later).value? path key =
        (later.value? path key).or (tree.value? path key) := by
  have both := toOption_read_append first outermost
  refine ⟨?_, fun tree later here there => ⟨?_, fun path => ?_, fun path key => ?_⟩⟩
  · rw [← toOption_eq_none, both, Option.bind_eq_none_iff, ← toOption_eq_none, ← toOption_eq_none]
    simp only [Option.map_eq_none_iff]
    cases (read first).toOption with
    | none => simp
    | some tree => simp
  · rw [← toOption_eq_some, both, toOption_eq_some.2 here, toOption_eq_some.2 there]
    rfl
  · rw [Section.at?_merge (ordered_of_read there), Option.isSome_merge, Bool.or_eq_true]
  · exact Section.value?_merge (ordered_of_read there) path key

namespace Reopened

/-- A text that ends two levels down. -/
def first : String := "a:\n  b: on\n  c:\n    d: x"

/-- A text that sets a value of the first one anew, and another in the section open last. -/
def second : String := "# later\na:\n  b: off\n  c:\n    e: y"

theorem outermost : ∀ line ∈ (written second).head?, line.indent = 0 := by
  have head : (written second).head? = some ⟨2, "a:".toList⟩ := rfl
  rw [head]
  rintro _ ⟨⟩
  rfl

theorem read_append_reopened :
    read (first ++ "\n" ++ second) =
      .ok (.node "root" [] [("a", .node "a" [("b", .bool false)]
        [("c", .node "c" [("d", .text "x"), ("e", .text "y")] [])])]) :=
  ((read_append first second outermost).2
    (.node "root" [] [("a", .node "a" [("b", .bool true)]
      [("c", .node "c" [("d", .text "x")] [])])])
    (.node "root" [] [("a", .node "a" [("b", .bool false)]
      [("c", .node "c" [("e", .text "y")] [])])]) rfl rfl).1

end Reopened

end FluidStructure.Config
