import Mathlib.Data.List.Basic

/-!
# Outlines

A tree as the list of its rows in preorder, where a row has a depth instead of children.
`Outline` says it by the places of the rows. `Continues` says it row by row, along the path
from the last row up to its root, and is what edits of an outline are followed with.
-/

namespace CoderDesktop.Collections

universe u v

variable {Row : Type u} {Other : Type v} (depth : Row → Nat) (below : Row → Row → Prop)

/-- A forest in preorder. A row is below the nearest row before it that is one less deep. -/
structure Outline (rows : List Row) : Prop where
  first : ∀ row ∈ rows.head?, depth row = 0
  step : ∀ before row next after, rows = before ++ row :: next :: after →
    depth next ≤ depth row + 1
  nested : ∀ before parent between row after,
    rows = before ++ parent :: (between ++ row :: after) → depth row = depth parent + 1 →
      (∀ other ∈ between, depth other ≠ depth parent) → below parent row

namespace Outline

/-- The rows above `row`, where `path` is the path of the row before it. -/
def ancestors (path : List Row) (row : Row) : List Row := path.drop (path.length - depth row)

/-- The path of the last row. -/
def pathAfter : List Row → List Row → List Row
  | path, [] => path
  | path, row :: rows => pathAfter (row :: ancestors depth path row) rows

/-- `rows` continue an outline after a row with this path. -/
def Continues : List Row → List Row → Prop
  | _, [] => True
  | path, row :: rows =>
      depth row ≤ path.length ∧ (∀ parent ∈ (ancestors depth path row).head?, below parent row) ∧
        Continues (row :: ancestors depth path row) rows

variable {depth below} {path rows : List Row} {row : Row}

/-! ## Paths -/

/-- A row has as many ancestors as its depth. -/
theorem length_ancestors (fits : depth row ≤ path.length) :
    (ancestors depth path row).length = depth row := by
  rw [ancestors, List.length_drop]
  omega

/-- Rows at the end of a path that are too deep are no ancestors. -/
theorem ancestors_append (extra : List Row) (fits : depth row ≤ path.length) :
    ancestors depth (extra ++ path) row = ancestors depth path row := by
  have skipped : (extra ++ path).length - depth row =
      extra.length + (path.length - depth row) := by
    rw [List.length_append]
    omega
  rw [ancestors, skipped, List.drop_append, List.drop_eq_nil_of_le (Nat.le_add_right _ _),
    Nat.add_sub_cancel_left]
  rfl

/-- A child of the path's last row has the path as its ancestors. -/
theorem ancestors_of_length (isChild : depth row = path.length) :
    ancestors depth path row = path := by
  rw [ancestors, isChild, Nat.sub_self]
  rfl

/-- A row that is deep enough leaves the path below it. -/
theorem exists_ancestors_eq (extra : List Row) (deep : path.length ≤ depth row) :
    ∃ kept, ancestors depth (extra ++ path) row = kept ++ path := by
  refine ⟨extra.drop ((extra ++ path).length - depth row), ?_⟩
  have inExtra : (extra ++ path).length - depth row ≤ extra.length := by
    rw [List.length_append]
    omega
  rw [ancestors, List.drop_append, Nat.sub_eq_zero_of_le inExtra]
  rfl

/-- Rows continue a path one after the other. -/
theorem continues_append {more : List Row} :
    Continues depth below path (rows ++ more) ↔
      Continues depth below path rows ∧ Continues depth below (pathAfter depth path rows) more := by
  induction rows generalizing path with
  | nil => exact (and_iff_right trivial).symm
  | cons row rows inductionHypothesis =>
      simp only [List.cons_append, Continues, pathAfter, inductionHypothesis, and_assoc]

/-- The path of a row ends in the row, and is as long as the row is deep. -/
theorem exists_path_of_continues {before after : List Row}
    (continues : Continues depth below [] (before ++ row :: after)) :
    ∃ above, above.length = depth row ∧ Continues depth below (row :: above) after := by
  obtain ⟨-, fits, -, continues⟩ := continues_append.mp continues
  exact ⟨_, length_ancestors fits, continues⟩

/-! ## What continuing means -/

/-- From a path that is too short, no row gets as deep as `bound` again but over `bound`. -/
theorem depth_ne_of_short {bound : Nat} {after : List Row} (short : path.length ≤ bound)
    (passed : ∀ other ∈ rows, depth other ≠ bound)
    (continues : Continues depth below path (rows ++ row :: after)) : depth row ≠ bound + 1 := by
  induction rows generalizing path with
  | nil =>
      obtain ⟨fits, -⟩ := continues
      omega
  | cons head rows inductionHypothesis =>
      obtain ⟨fits, -, continues⟩ := continues
      have notBound := passed head List.mem_cons_self
      refine inductionHypothesis ?_ (fun other member => passed other ?_) continues
      · rw [List.length_cons, length_ancestors fits]
        omega
      · exact List.mem_cons_of_mem _ member

/-- Until a row is as deep as `parent` again, the rows one deeper are below `parent`. -/
theorem below_of_continues {parent : Row} {above extra after : List Row}
    (isPath : above.length = depth parent)
    (continues : Continues depth below (extra ++ parent :: above) (rows ++ row :: after))
    (isChild : depth row = depth parent + 1)
    (passed : ∀ other ∈ rows, depth other ≠ depth parent) : below parent row := by
  induction rows generalizing extra with
  | nil =>
      obtain ⟨-, isBelow, -⟩ := continues
      have length : depth row = (parent :: above).length := by
        rw [List.length_cons, isPath, isChild]
      rw [ancestors_append extra (Nat.le_of_eq length), ancestors_of_length length] at isBelow
      exact isBelow parent rfl
  | cons head rows inductionHypothesis =>
      obtain ⟨fits, -, continues⟩ := continues
      have others (other : Row) (member : other ∈ rows) : depth other ≠ depth parent :=
        passed other (List.mem_cons_of_mem _ member)
      have notSibling := passed head List.mem_cons_self
      by_cases deep : depth parent + 1 ≤ depth head
      · have length : (parent :: above).length ≤ depth head := by
          rwa [List.length_cons, isPath]
        obtain ⟨kept, isKept⟩ := exists_ancestors_eq extra length
        rw [isKept] at continues
        have grown : Continues depth below ((head :: kept) ++ parent :: above)
          (rows ++ row :: after) := continues
        exact inductionHypothesis grown others
      · refine absurd isChild (depth_ne_of_short ?_ others continues)
        rw [List.length_cons, length_ancestors fits]
        omega

/-- Rows that continue the empty path are an outline. -/
theorem of_continues (continues : Continues depth below [] rows) : Outline depth below rows where
  first row isFirst := by
    cases rows with
    | nil => cases isFirst
    | cons head rows =>
        obtain rfl := Option.some.inj isFirst
        exact Nat.eq_zero_of_le_zero continues.1
  step before row next after shape := by
    rw [shape] at continues
    obtain ⟨above, length, continues⟩ := exists_path_of_continues continues
    rw [← length]
    exact continues.1
  nested before parent between row after shape isChild passed := by
    rw [shape] at continues
    obtain ⟨above, length, continues⟩ := exists_path_of_continues continues
    have later : Continues depth below ([] ++ parent :: above) (between ++ row :: after) :=
      continues
    exact below_of_continues length later isChild passed

/-- Roots continue any path. -/
theorem continues_roots (areRoots : ∀ row ∈ rows, depth row = 0) :
    Continues depth below path rows := by
  induction rows generalizing path with
  | nil => trivial
  | cons row rows inductionHypothesis =>
      have isRoot := areRoots row List.mem_cons_self
      have noAncestors : ancestors depth path row = [] := by
        rw [ancestors, isRoot, Nat.sub_zero, List.drop_length]
      rw [Continues, noAncestors, isRoot]
      exact ⟨Nat.zero_le _, nofun,
        inductionHypothesis fun other member => areRoots other (List.mem_cons_of_mem _ member)⟩

/-! ## Edits -/

/-- Rows deeper than a path may go, if what follows them is not. -/
theorem continues_of_append {descendants rest extra : List Row}
    (deeper : ∀ row ∈ descendants, path.length ≤ depth row)
    (shallow : ∀ row ∈ rest.head?, depth row ≤ path.length)
    (continues : Continues depth below (extra ++ path) (descendants ++ rest)) :
    Continues depth below path rest := by
  induction descendants generalizing extra with
  | nil =>
      cases rest with
      | nil => trivial
      | cons row rest =>
          obtain ⟨-, isBelow, continues⟩ := continues
          have fits := shallow row rfl
          rw [ancestors_append extra fits] at isBelow continues
          exact ⟨fits, isBelow, continues⟩
  | cons head descendants inductionHypothesis =>
      obtain ⟨-, -, continues⟩ := continues
      obtain ⟨kept, isKept⟩ := exists_ancestors_eq extra (deeper head List.mem_cons_self)
      rw [isKept] at continues
      have grown : Continues depth below ((head :: kept) ++ path) (descendants ++ rest) := continues
      exact inductionHypothesis (fun row member => deeper row (List.mem_cons_of_mem _ member)) grown

/-- Children may come after their parent, if what follows them is not deeper than they are. -/
theorem continues_children {parent : Row} {above extra children rest : List Row}
    (isPath : above.length = depth parent)
    (areChildren : ∀ child ∈ children, depth child = depth parent + 1 ∧ below parent child)
    (shallow : ∀ row ∈ rest.head?, depth row ≤ depth parent)
    (continues : Continues depth below (parent :: above) rest) :
    Continues depth below (extra ++ parent :: above) (children ++ rest) := by
  induction children generalizing extra with
  | nil =>
      cases rest with
      | nil => trivial
      | cons row rest =>
          obtain ⟨fits, isBelow, continues⟩ := continues
          refine ⟨?_, ?_, ?_⟩
          · rw [List.length_append]
            exact Nat.le_add_left_of_le fits
          · rwa [ancestors_append extra fits]
          · rwa [ancestors_append extra fits]
  | cons child children inductionHypothesis =>
      obtain ⟨isChild, isBelow⟩ := areChildren child List.mem_cons_self
      have length : depth child = (parent :: above).length := by
        rw [List.length_cons, isPath, isChild]
      have isAbove : ancestors depth (extra ++ parent :: above) child = parent :: above := by
        rw [ancestors_append extra (Nat.le_of_eq length), ancestors_of_length length]
      rw [List.cons_append, Continues, isAbove]
      refine ⟨?_, fun other isOther => ?_, ?_⟩
      · rw [List.length_append]
        exact Nat.le_add_left_of_le (Nat.le_of_eq length)
      · obtain rfl := Option.some.inj isOther
        exact isBelow
      · have grown : Continues depth below ([child] ++ parent :: above) (children ++ rest) :=
          inductionHypothesis fun other member => areChildren other (List.mem_cons_of_mem _ member)
        exact grown

/-- Exchange what is below a row for children of the row. -/
theorem continues_replace {before descendants children rest : List Row}
    (deeper : ∀ other ∈ descendants, depth row < depth other)
    (shallow : ∀ other ∈ rest.head?, depth other ≤ depth row)
    (areChildren : ∀ child ∈ children, depth child = depth row + 1 ∧ below row child)
    (continues : Continues depth below [] (before ++ row :: (descendants ++ rest))) :
    Continues depth below [] (before ++ row :: (children ++ rest)) := by
  obtain ⟨continues, fits, isBelow, later⟩ := continues_append.mp continues
  refine continues_append.mpr ⟨continues, fits, isBelow, ?_⟩
  have length := length_ancestors fits
  have later : Continues depth below
      ([] ++ row :: ancestors depth (pathAfter depth [] before) row) (descendants ++ rest) := later
  have after := continues_of_append (fun other member => ?_) (fun other isFirst => ?_) later
  · have edited : Continues depth below
        ([] ++ row :: ancestors depth (pathAfter depth [] before) row) (children ++ rest) :=
      continues_children length areChildren shallow after
    exact edited
  · rw [List.length_cons, length]
    exact deeper other member
  · rw [List.length_cons, length]
    exact Nat.le_succ_of_le (shallow other isFirst)

/-- Rows count by what `depth` and `below` see of them. -/
theorem continues_map {view : Other → Row} {path rows : List Other} :
    Continues depth below (path.map view) (rows.map view) ↔
      Continues (fun row => depth (view row))
        (fun parent row => below (view parent) (view row)) path rows := by
  have above (path : List Other) (row : Other) :
      ancestors depth (path.map view) (view row) =
        (ancestors (fun row => depth (view row)) path row).map view := by
    rw [ancestors, ancestors, List.length_map, List.map_drop]
  induction rows generalizing path with
  | nil => exact Iff.rfl
  | cons row rows inductionHypothesis =>
      refine and_congr (List.length_map view ▸ Iff.rfl) (and_congr ?_ ?_)
      · rw [above, List.head?_map]
        cases (ancestors (fun row => depth (view row)) path row).head? with
        | none => exact iff_of_true nofun nofun
        | some parent => simp only [Option.map_some, Option.mem_some_iff, forall_eq']
      · rw [above, ← List.map_cons]
        exact inductionHypothesis

end Outline

end CoderDesktop.Collections
