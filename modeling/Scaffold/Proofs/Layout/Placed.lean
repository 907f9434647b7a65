import Scaffold.Proofs.Layout
import Scaffold.Proofs.Text.Split

/-! The printed lines of a tree of steps, each at its level. -/
namespace Scaffold

/-- A line as it is printed at a level. -/
def Style.indented (style : Style) (placed : Nat × String) : String :=
  if placed.2.isEmpty then "" else String.join (List.replicate placed.1 style.unit) ++ placed.2

/-- The lines that a text is printed as; there are more of them if it has line breaks. -/
def Style.lines (style : Style) (placed : Nat × String) : List String :=
  Text.splitAt '\n' (style.indented placed)

@[simp] theorem Style.indented_zero (style : Style) (text : String) :
    style.indented (0, text) = text := by
  rw [indented]
  split
  next h => exact (String.isEmpty_iff.mp h).symm
  next => exact String.empty_append

@[simp] theorem Style.lines_zero (style : Style) (text : String) :
    style.lines (0, text) = Text.splitAt '\n' text := by rw [lines, indented_zero]

namespace Step

def opening : Style → String → List String
  | .ownLine, header => [header, "\x7b"]
  | .endOfHeader, header => [header ++ " \x7b"]

mutual

/-- The level at which the next step stands. -/
def levelAfter (level : Nat) : Step → Nat
  | .indent => level + 1
  | .dedent => level - 1
  | .block _ _ body => levelAfterAll (level + 1) body - 1
  | .line _ | .lines _ | .blank | .summary _ => level

def levelAfterAll (level : Nat) : List Step → Nat
  | [] => level
  | s :: ss => levelAfterAll (s.levelAfter level) ss

end

mutual

/-- The lines with the levels at which they stand. -/
def placed (style : Style) (level : Nat) : Step → List (Nat × String)
  | .line s => [(level, s)]
  | .lines ss => ss.map (level, ·)
  | .blank => [(level, "")]
  | .indent | .dedent => []
  | .summary s => ["/// <summary>", "/// " ++ s, "/// </summary>"].map (level, ·)
  | .block header close body =>
    (opening style header).map (level, ·) ++ allPlaced style (level + 1) body ++
      [(levelAfterAll (level + 1) body - 1, close)]

def allPlaced (style : Style) (level : Nat) : List Step → List (Nat × String)
  | [] => []
  | s :: ss => s.placed style level ++ allPlaced style (s.levelAfter level) ss

end

end Step

namespace Writer

def put (w : Writer) (placed : List (Nat × String)) : Writer :=
  { w with text := w.text ++ String.join (placed.map (w.style.indented · ++ "\n")) }

def atLevel (w : Writer) (level : Nat) : Writer := { w with level }

section

variable (w : Writer)

theorem put_nil : w.put [] = w := by simp [put, String.join]

theorem put_append (xs ys : List (Nat × String)) : w.put (xs ++ ys) = (w.put xs).put ys := by
  simp [put, String.append_assoc]

theorem line_eq (s : String) : w.line s = w.put [(w.level, s)] := by
  have hjoin : ∀ t : String, String.join [t] = t := fun t => String.empty_append
  rw [put, List.map_singleton, hjoin, Style.indented, line]
  by_cases h : s.isEmpty
  · rw [if_pos h, if_pos h, String.empty_append]
  · rw [if_neg h, if_neg h]
    simp only [String.append_assoc]

theorem foldl_line (ss : List String) : ss.foldl line w = w.put (ss.map (w.level, ·)) := by
  induction ss generalizing w with
  | nil => exact (put_nil w).symm
  | cons s ss ih =>
    rw [List.foldl_cons, ih, line_eq, List.map_cons, ← put_append]
    rfl

theorem openBlock_eq (header : String) :
    w.openBlock header = w.put ((Step.opening w.style header).map (w.level, ·)) := by
  rw [← foldl_line]
  unfold openBlock Step.opening
  cases w.style <;> rfl

end

mutual

theorem step_eq (w : Writer) (s : Step) :
    w.step s = (w.put (s.placed w.style w.level)).atLevel (s.levelAfter w.level) := by
  cases s with
  | line s =>
    rw [step, line_eq, Step.placed, Step.levelAfter]
    rfl
  | lines ss =>
    rw [step, foldl_line, Step.placed, Step.levelAfter]
    rfl
  | blank =>
    rw [step, line_eq, Step.placed, Step.levelAfter]
    rfl
  | indent =>
    rw [step, Step.placed, Step.levelAfter, put_nil]
    rfl
  | dedent =>
    rw [step, Step.placed, Step.levelAfter, put_nil]
    rfl
  | summary s =>
    rw [step, foldl_line, Step.placed, Step.levelAfter]
    rfl
  | block header close body =>
    rw [step, openBlock_eq, steps_eq, line_eq, Step.placed, Step.levelAfter, put_append, put_append]
    rfl

theorem steps_eq (w : Writer) (ss : List Step) :
    w.steps ss =
      (w.put (Step.allPlaced w.style w.level ss)).atLevel (Step.levelAfterAll w.level ss) := by
  cases ss with
  | nil =>
    rw [steps, Step.allPlaced, Step.levelAfterAll, put_nil]
    rfl
  | cons s ss =>
    rw [steps, step_eq, steps_eq, Step.allPlaced, Step.levelAfterAll, put_append]
    rfl

end

end Writer

namespace Step

variable {style : Style} {level : Nat} {s : Step} {ss ts : List Step}

@[simp] theorem levelAfterAll_nil (level : Nat) : levelAfterAll level [] = level := by
  rw [levelAfterAll]

@[simp] theorem levelAfterAll_cons (level : Nat) (s : Step) (ss : List Step) :
    levelAfterAll level (s :: ss) = levelAfterAll (s.levelAfter level) ss := by
  rw [levelAfterAll]

@[simp] theorem levelAfter_line (level : Nat) (text : String) :
    (line text).levelAfter level = level := by rw [levelAfter]

@[simp] theorem levelAfter_blank (level : Nat) : blank.levelAfter level = level := by
  rw [levelAfter]

@[simp] theorem levelAfter_indent (level : Nat) : indent.levelAfter level = level + 1 := by
  rw [levelAfter]

@[simp] theorem levelAfter_dedent (level : Nat) : dedent.levelAfter level = level - 1 := by
  rw [levelAfter]

@[simp] theorem levelAfter_block (level : Nat) (header close : String) (body : List Step) :
    (block header close body).levelAfter level = levelAfterAll (level + 1) body - 1 := by
  rw [levelAfter]

@[simp] theorem levelAfterAll_append (level : Nat) (ss ts : List Step) :
    levelAfterAll level (ss ++ ts) = levelAfterAll (levelAfterAll level ss) ts := by
  induction ss generalizing level with
  | nil => rw [levelAfterAll_nil, List.nil_append]
  | cons s ss ih => rw [List.cons_append, levelAfterAll_cons, levelAfterAll_cons, ih]

@[simp] theorem allPlaced_nil (style : Style) (level : Nat) : allPlaced style level [] = [] := by
  rw [allPlaced]

@[simp] theorem allPlaced_cons (style : Style) (level : Nat) (s : Step) (ss : List Step) :
    allPlaced style level (s :: ss) =
      s.placed style level ++ allPlaced style (s.levelAfter level) ss := by
  rw [allPlaced]

@[simp] theorem placed_line (style : Style) (level : Nat) (text : String) :
    (line text).placed style level = [(level, text)] := by rw [placed]

@[simp] theorem placed_blank (style : Style) (level : Nat) :
    blank.placed style level = [(level, "")] := by rw [placed]

@[simp] theorem placed_indent (style : Style) (level : Nat) : indent.placed style level = [] := by
  rw [placed]

@[simp] theorem placed_dedent (style : Style) (level : Nat) : dedent.placed style level = [] := by
  rw [placed]

@[simp] theorem allPlaced_append (style : Style) (level : Nat) (ss ts : List Step) :
    allPlaced style level (ss ++ ts) =
      allPlaced style level ss ++ allPlaced style (levelAfterAll level ss) ts := by
  induction ss generalizing level with
  | nil => rw [allPlaced_nil, levelAfterAll_nil, List.nil_append, List.nil_append]
  | cons s ss ih =>
    rw [List.cons_append, allPlaced_cons, allPlaced_cons, levelAfterAll_cons, ih, List.append_assoc]

@[simp] theorem allPlaced_map_line {α : Type} (style : Style) (level : Nat) (f : α → String)
    (xs : List α) :
    allPlaced style level (xs.map fun x => line (f x)) = xs.map fun x => (level, f x) := by
  induction xs with
  | nil => exact allPlaced_nil style level
  | cons x xs ih => rw [List.map_cons, allPlaced_cons, placed_line, levelAfter_line, ih]; rfl

/-- Within the steps, and within each of their blocks, every indentation is taken back. -/
inductive Bracketed : List Step → Prop
  | nil : Bracketed []
  | line (text : String) {rest : List Step} : Bracketed rest → Bracketed (.line text :: rest)
  | lines (texts : List String) {rest : List Step} :
    Bracketed rest → Bracketed (.lines texts :: rest)
  | blank {rest : List Step} : Bracketed rest → Bracketed (.blank :: rest)
  | summary (text : String) {rest : List Step} :
    Bracketed rest → Bracketed (.summary text :: rest)
  | block (header close : String) {body rest : List Step} :
    Bracketed body → Bracketed rest → Bracketed (.block header close body :: rest)
  | deeper {inner rest : List Step} :
    Bracketed inner → Bracketed rest → Bracketed (.indent :: inner ++ .dedent :: rest)

namespace Bracketed

theorem append (hs : Bracketed ss) (ht : Bracketed ts) : Bracketed (ss ++ ts) := by
  induction hs with
  | nil => exact ht
  | line text _ ih => exact ih.line text
  | lines texts _ ih => exact ih.lines texts
  | blank _ ih => exact ih.blank
  | summary text _ ih => exact ih.summary text
  | block header close hbody _ _ ih => exact .block header close hbody ih
  | deeper hinner _ _ ih =>
    rw [List.append_assoc]
    exact hinner.deeper ih

theorem braces (header : String) {body rest : List Step} (hbody : Bracketed body)
    (hrest : Bracketed rest) : Bracketed (braces header body :: rest) :=
  .block header "\x7d" hbody hrest

theorem within (opening closing : String) (h : Bracketed ss) :
    Bracketed (within opening closing ss) :=
  .line opening (h.deeper (.line closing .nil))

theorem flatMap {α : Type} {f : α → List Step} {xs : List α} (h : ∀ x ∈ xs, Bracketed (f x)) :
    Bracketed (xs.flatMap f) := by
  induction xs with
  | nil => exact .nil
  | cons x xs ih =>
    obtain ⟨hx, hxs⟩ := List.forall_mem_cons.mp h
    exact hx.append (ih hxs)

theorem map_line {α : Type} (f : α → String) (xs : List α) :
    Bracketed (xs.map fun x => .line (f x)) := by
  induction xs with
  | nil => exact .nil
  | cons x xs ih => exact ih.line (f x)

theorem levelAfterAll_eq (h : Bracketed ss) (level : Nat) : levelAfterAll level ss = level := by
  induction h generalizing level with
  | nil => exact levelAfterAll_nil level
  | block header close _ _ ihbody ih =>
    rw [levelAfterAll_cons, levelAfter_block, ihbody, ih, Nat.add_sub_cancel]
  | deeper _ _ ihinner ih =>
    rw [List.cons_append, levelAfterAll_cons, levelAfterAll_append, levelAfterAll_cons,
      levelAfter_indent, ihinner, levelAfter_dedent, ih, Nat.add_sub_cancel]
  | line _ _ ih | lines _ _ ih | blank _ ih | summary _ _ ih =>
    rw [levelAfterAll_cons, levelAfter, ih]

theorem allPlaced_flatMap {α : Type} {f : α → List Step} {xs : List α}
    (h : ∀ x ∈ xs, Bracketed (f x)) (style : Style) (level : Nat) :
    allPlaced style level (xs.flatMap f) = xs.flatMap fun x => allPlaced style level (f x) := by
  induction xs with
  | nil => exact allPlaced_nil style level
  | cons x xs ih =>
    obtain ⟨hx, hxs⟩ := List.forall_mem_cons.mp h
    rw [List.flatMap_cons, allPlaced_append, hx.levelAfterAll_eq, ih hxs, List.flatMap_cons]

/-- No line stands further out than the steps themselves. -/
theorem le_of_mem_allPlaced (h : Bracketed ss) {placed : Nat × String}
    (hmem : placed ∈ allPlaced style level ss) : level ≤ placed.1 := by
  induction h generalizing level with
  | nil => simp at hmem
  | block header close hbody _ ihbody ih =>
    rw [allPlaced_cons, Step.placed, levelAfter_block, hbody.levelAfterAll_eq,
      Nat.add_sub_cancel] at hmem
    simp only [List.mem_append, List.mem_map, List.mem_singleton] at hmem
    rcases hmem with ((⟨text, -, rfl⟩ | hmem) | rfl) | hmem
    · exact Nat.le_refl level
    · exact Nat.le_of_succ_le (ihbody hmem)
    · exact Nat.le_refl level
    · exact ih hmem
  | deeper hinner _ ihinner ih =>
    rw [List.cons_append, allPlaced_cons, placed_indent, List.nil_append, levelAfter_indent,
      allPlaced_append, allPlaced_cons, placed_dedent, List.nil_append, hinner.levelAfterAll_eq,
      levelAfter_dedent, Nat.add_sub_cancel, List.mem_append] at hmem
    rcases hmem with hmem | hmem
    · exact Nat.le_of_succ_le (ihinner hmem)
    · exact ih hmem
  | line _ _ ih | lines _ _ ih | blank _ ih | summary _ _ ih =>
    rw [allPlaced_cons, Step.placed, levelAfter, List.mem_append] at hmem
    rcases hmem with hmem | hmem
    · simp only [List.mem_map, List.mem_singleton] at hmem
      grind
    · exact ih hmem

end Bracketed

theorem print_eq (style : Style) (ss : List Step) :
    print style ss = String.join ((allPlaced style 0 ss).map (style.indented · ++ "\n")) := by
  rw [print, Writer.steps_eq]
  exact String.empty_append

theorem splitAt_join (ls : List String) :
    Text.splitAt '\n' (String.join (ls.map (· ++ "\n"))) = ls.flatMap (Text.splitAt '\n') ++ [""] := by
  induction ls with
  | nil => rfl
  | cons l ls ih =>
    rw [List.map_cons, String.join_cons, Text.splitAt_append rfl, ih, List.flatMap_cons,
      List.append_assoc]

theorem lines_print (style : Style) (ss : List Step) :
    Text.splitAt '\n' (print style ss) =
      (allPlaced style 0 ss).flatMap style.lines ++ [""] := by
  rw [print_eq]
  have h := splitAt_join ((allPlaced style 0 ss).map style.indented)
  rw [List.map_map, List.flatMap_map] at h
  exact h

def Unbroken (text : String) : Prop := '\n' ∉ text.toList

instance (text : String) : Decidable (Unbroken text) :=
  inferInstanceAs (Decidable ('\n' ∉ text.toList))

/-- Texts given by their characters are decided without taking the texts apart. -/
theorem unbroken_ofList {cs : List Char} (h : '\n' ∉ cs) : Unbroken (String.ofList cs) := by
  rwa [Unbroken, String.toList_ofList]

@[simp] theorem unbroken_append {s t : String} : Unbroken (s ++ t) ↔ Unbroken s ∧ Unbroken t := by
  simp [Unbroken, not_or]

theorem unbroken_indented {placed : Nat × String} (h : Unbroken placed.2) :
    Unbroken (style.indented placed) := by
  have hunit : ∀ n, Unbroken (String.join (List.replicate n style.unit)) := by
    intro n
    induction n with
    | zero => exact (by decide : Unbroken "")
    | succ n ih =>
      rw [List.replicate_succ, String.join_cons, unbroken_append]
      exact ⟨by cases style <;> decide, ih⟩
  rw [Style.indented]
  split
  · decide
  · exact unbroken_append.mpr ⟨hunit placed.1, h⟩

theorem lines_indented {placed : Nat × String} (h : Unbroken placed.2) :
    style.lines placed = [style.indented placed] :=
  Text.splitAt_of_not_mem (unbroken_indented h)

theorem unbroken_opening {header : String} (h : Unbroken header) :
    ∀ text ∈ opening style header, Unbroken text := by
  cases style with
  | ownLine => simpa [opening, h] using (by decide : Unbroken "\x7b")
  | endOfHeader => simpa [opening, h] using (by decide : Unbroken " \x7b")

mutual

theorem unbroken_of_mem_placed {s : Step} {level : Nat} {placed : Nat × String}
    (h : ∀ text ∈ s.texts, Unbroken text) (hmem : placed ∈ s.placed style level) :
    Unbroken placed.2 := by
  cases s with
  | block header close body =>
    rw [texts] at h
    simp only [List.cons_append, List.mem_cons, List.mem_append, List.not_mem_nil, or_false] at h
    rw [Step.placed] at hmem
    simp only [List.mem_append, List.mem_map, List.mem_singleton] at hmem
    rcases hmem with (⟨text, htext, rfl⟩ | hmem) | rfl
    · exact unbroken_opening (h header (.inl rfl)) text htext
    · exact unbroken_of_mem_allPlaced (fun text htext => h text (.inr (.inl htext))) hmem
    · exact h close (.inr (.inr rfl))
  | blank =>
    obtain rfl := List.mem_singleton.mp (placed_blank style level ▸ hmem)
    exact (by decide : Unbroken "")
  | indent | dedent => simp at hmem
  | line text =>
    obtain rfl := List.mem_singleton.mp (placed_line style level text ▸ hmem)
    exact h text (by simp)
  | lines _ | summary _ =>
    rw [texts] at h
    rw [Step.placed] at hmem
    obtain ⟨text, htext, rfl⟩ := List.mem_map.mp hmem
    exact h text htext

theorem unbroken_of_mem_allPlaced {ss : List Step} {level : Nat} {placed : Nat × String}
    (h : AllLines Unbroken ss) (hmem : placed ∈ allPlaced style level ss) :
    Unbroken placed.2 := by
  cases ss with
  | nil => simp at hmem
  | cons s ss =>
    rw [AllLines, allTexts_cons, List.forall_mem_append] at h
    rcases List.mem_append.mp (allPlaced_cons style level s ss ▸ hmem) with hmem | hmem
    · exact unbroken_of_mem_placed h.1 hmem
    · exact unbroken_of_mem_allPlaced h.2 hmem

end

/-- Texts without line breaks are printed line by line. -/
theorem lines_print_of_unbroken (h : AllLines Unbroken ss) :
    Text.splitAt '\n' (print style ss) = (allPlaced style 0 ss).map style.indented ++ [""] := by
  rw [lines_print, List.map_eq_flatMap]
  congr 1
  exact List.flatMap_congr fun placed hmem =>
    lines_indented (unbroken_of_mem_allPlaced h hmem)

end Step

end Scaffold
