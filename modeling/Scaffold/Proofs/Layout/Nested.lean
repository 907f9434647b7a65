import Scaffold.Proofs.Layout.Placed

/-! Trees of nested steps, and the layout that writing them appends to a text. -/
namespace Scaffold

/-- Steps in which every indentation is taken back in the body where it was made. -/
inductive Nested
  | line (text : String)
  | lines (texts : List String)
  | blank
  | summary (text : String)
  | block (header close : String) (body : List Nested)
  | deeper (body : List Nested)

namespace Nested

mutual

def steps : Nested → List Step
  | line text => [.line text]
  | lines texts => [.lines texts]
  | blank => [.blank]
  | summary text => [.summary text]
  | block header close body => [.block header close (allSteps body)]
  | deeper body => .indent :: allSteps body ++ [.dedent]

def allSteps : List Nested → List Step
  | [] => []
  | n :: ns => n.steps ++ allSteps ns

end

/-- How far a level is from the next, in blanks. -/
def width : Style → Nat
  | .ownLine => 4
  | .endOfHeader => 2

def opening : Style → String → List String
  | .ownLine, header => [header, "\x7b"]
  | .endOfHeader, header => [header ++ " \x7b"]

/-- A line within one more block or indentation. -/
def inside (line : Nat × String) : Nat × String := (line.1 + 1, line.2)

mutual

/-- The lines, each with the number of blocks and indentations that it stands in. What opens and
closes a block stands outside of it. -/
def outline (style : Style) : Nested → List (Nat × String)
  | line text => [(0, text)]
  | lines texts => texts.map (0, ·)
  | blank => [(0, "")]
  | summary text => ["/// <summary>", "/// " ++ text, "/// </summary>"].map (0, ·)
  | block header close body =>
    (opening style header).map (0, ·) ++ (allOutline style body).map inside ++ [(0, close)]
  | deeper body => (allOutline style body).map inside

def allOutline (style : Style) : List Nested → List (Nat × String)
  | [] => []
  | n :: ns => n.outline style ++ allOutline style ns

end

/-- A line of an outline that starts at a level. -/
def atLevel (level : Nat) (line : Nat × String) : Nat × String := (level + line.1, line.2)

/-- A line behind its blanks. An empty one has none. -/
def row (style : Style) (line : Nat × String) : String :=
  if line.2 = "" then "\n"
  else String.ofList (List.replicate (width style * line.1) ' ') ++ line.2 ++ "\n"

/-- The rows of the outline when it starts at a level. -/
def layout (style : Style) (level : Nat) (ns : List Nested) : String :=
  String.join ((allOutline style ns).map fun line => row style (atLevel level line))

mutual

theorem bracketed_steps (n : Nested) : Step.Bracketed n.steps := by
  cases n with
  | line text =>
    rw [steps]
    exact Step.Bracketed.nil.line text
  | lines texts =>
    rw [steps]
    exact Step.Bracketed.nil.lines texts
  | blank =>
    rw [steps]
    exact Step.Bracketed.nil.blank
  | summary text =>
    rw [steps]
    exact Step.Bracketed.nil.summary text
  | block header close body =>
    rw [steps]
    exact .block header close (bracketed_allSteps body) .nil
  | deeper body =>
    rw [steps]
    exact (bracketed_allSteps body).deeper .nil

theorem bracketed_allSteps (ns : List Nested) : Step.Bracketed (allSteps ns) := by
  cases ns with
  | nil =>
    rw [allSteps]
    exact .nil
  | cons n ns =>
    rw [allSteps]
    exact (bracketed_steps n).append (bracketed_allSteps ns)

end

theorem bracketed_iff {ss : List Step} : Step.Bracketed ss ↔ ∃ ns, allSteps ns = ss := by
  constructor
  · intro h
    induction h with
    | nil => exact ⟨[], by rw [allSteps]⟩
    | line text _ ih =>
      obtain ⟨ns, rfl⟩ := ih
      exact ⟨.line text :: ns, by rw [allSteps, steps]; rfl⟩
    | lines texts _ ih =>
      obtain ⟨ns, rfl⟩ := ih
      exact ⟨.lines texts :: ns, by rw [allSteps, steps]; rfl⟩
    | blank _ ih =>
      obtain ⟨ns, rfl⟩ := ih
      exact ⟨.blank :: ns, by rw [allSteps, steps]; rfl⟩
    | summary text _ ih =>
      obtain ⟨ns, rfl⟩ := ih
      exact ⟨.summary text :: ns, by rw [allSteps, steps]; rfl⟩
    | block header close _ _ ihbody ih =>
      obtain ⟨body, rfl⟩ := ihbody
      obtain ⟨ns, rfl⟩ := ih
      exact ⟨.block header close body :: ns, by rw [allSteps, steps]; rfl⟩
    | deeper _ _ ihinner ih =>
      obtain ⟨inner, rfl⟩ := ihinner
      obtain ⟨ns, rfl⟩ := ih
      exact ⟨.deeper inner :: ns, by rw [allSteps, steps]; simp⟩
  · rintro ⟨ns, rfl⟩
    exact bracketed_allSteps ns

theorem row_eq (style : Style) (line : Nat × String) :
    row style line = style.indented line ++ "\n" := by
  have hunit : style.unit = String.ofList (List.replicate (width style) ' ') := by
    cases style <;> rfl
  have hunits : ∀ n, String.join (List.replicate n style.unit) =
      String.ofList (List.replicate (width style * n) ' ') := by
    intro n
    induction n with
    | zero => rfl
    | succ n ih =>
      rw [List.replicate_succ, String.join_cons, ih, hunit, ← String.ofList_append,
        List.replicate_append_replicate, Nat.mul_succ, Nat.add_comm]
  rw [row, Style.indented, hunits]
  by_cases hempty : line.2 = ""
  · rw [if_pos hempty, if_pos (String.isEmpty_iff.mpr hempty), String.empty_append]
  · rw [if_neg hempty, if_neg (mt String.isEmpty_iff.mp hempty)]

theorem opening_eq (style : Style) (header : String) :
    opening style header = Step.opening style header := by
  cases style <;> rfl

theorem map_atLevel_inside (level : Nat) (ls : List (Nat × String)) :
    (ls.map inside).map (atLevel level) = ls.map (atLevel (level + 1)) := by
  rw [List.map_map]
  refine List.map_congr_left fun line _ => ?_
  rw [Function.comp_apply, atLevel, atLevel, inside, Nat.add_right_comm, Nat.add_assoc]

theorem map_atLevel_zero (level : Nat) (texts : List String) :
    (texts.map (0, ·)).map (atLevel level) = texts.map (level, ·) := by
  rw [List.map_map]
  rfl

mutual

theorem allPlaced_steps (style : Style) (level : Nat) (n : Nested) :
    Step.allPlaced style level n.steps = (n.outline style).map (atLevel level) := by
  cases n with
  | block header close body =>
    have hlevel := (bracketed_allSteps body).levelAfterAll_eq (level + 1)
    rw [steps, Step.allPlaced_cons, Step.allPlaced_nil, Step.placed, hlevel, Nat.add_sub_cancel,
      allPlaced_allSteps, outline, opening_eq, List.map_append, List.map_append, map_atLevel_zero,
      map_atLevel_inside, List.append_nil]
    rfl
  | deeper body =>
    rw [steps, List.cons_append, Step.allPlaced_cons, Step.placed_indent, Step.levelAfter_indent,
      Step.allPlaced_append, allPlaced_allSteps, Step.allPlaced_cons, Step.placed_dedent,
      Step.allPlaced_nil, outline, map_atLevel_inside]
    simp only [List.nil_append, List.append_nil]
  | line text | blank =>
    rw [steps, Step.allPlaced_cons, Step.allPlaced_nil, Step.placed, outline]
    rfl
  | lines texts | summary text =>
    rw [steps, Step.allPlaced_cons, Step.allPlaced_nil, Step.placed, outline, map_atLevel_zero,
      List.append_nil]

theorem allPlaced_allSteps (style : Style) (level : Nat) (ns : List Nested) :
    Step.allPlaced style level (allSteps ns) = (allOutline style ns).map (atLevel level) := by
  cases ns with
  | nil => rw [allSteps, allOutline, Step.allPlaced_nil, List.map_nil]
  | cons n ns =>
    rw [allSteps, allOutline, Step.allPlaced_append, (bracketed_steps n).levelAfterAll_eq,
      allPlaced_steps, allPlaced_allSteps, List.map_append]

end

/-- Bracketed steps are the steps of nested trees. From whatever level it starts, and whatever is
written already, a writer appends the layout of the tree and returns to the level. -/
theorem steps_append_layout :
    (∀ ss, Step.Bracketed ss ↔ ∃ ns, allSteps ns = ss) ∧
    ∀ (w : Writer) (ns : List Nested),
      w.steps (allSteps ns) = { w with text := w.text ++ layout w.style w.level ns } := by
  refine ⟨fun ss => bracketed_iff, fun w ns => ?_⟩
  have hlevel := (bracketed_allSteps ns).levelAfterAll_eq w.level
  simp only [layout, row_eq]
  rw [Writer.steps_eq, hlevel, allPlaced_allSteps, Writer.put, Writer.atLevel, List.map_map]
  rfl

example : layout .ownLine 1 [.block "run(() =>" "\x7d);" [.line "go();", .blank]] =
    "    run(() =>\n    \x7b\n        go();\n\n    \x7d);\n" := by decide +kernel

end Nested

end Scaffold
