import Scaffold.Layout
import Scaffold.Proofs.Text.Beginning

/-! The lines of a tree of steps, in order and without their indentation, and its blocks. A line or
a header is told apart from others by how it begins. -/
namespace Scaffold.Step

mutual

def texts : Step → List String
  | .line s => [s]
  | .lines ss => ss
  | .blank | .indent | .dedent => []
  | .summary s => ["/// <summary>", "/// " ++ s, "/// </summary>"]
  | .block header close body => header :: allTexts body ++ [close]

/-- The lines of steps that follow one another. -/
def allTexts : List Step → List String
  | [] => []
  | s :: ss => s.texts ++ allTexts ss

end

@[simp] theorem texts_line (s : String) : (line s).texts = [s] := by rw [texts]

@[simp] theorem texts_lines (ss : List String) : (lines ss).texts = ss := by rw [texts]

@[simp] theorem texts_blank : blank.texts = [] := by rw [texts]

@[simp] theorem texts_indent : indent.texts = [] := by rw [texts]

@[simp] theorem texts_dedent : dedent.texts = [] := by rw [texts]

@[simp] theorem texts_braces (header : String) (body : List Step) :
    (braces header body).texts = header :: allTexts body ++ ["\x7d"] := by rw [braces, texts]

@[simp] theorem allTexts_nil : allTexts [] = [] := by rw [allTexts]

@[simp] theorem allTexts_cons (s : Step) (ss : List Step) :
    allTexts (s :: ss) = s.texts ++ allTexts ss := by rw [allTexts]

theorem allTexts_eq_flatMap (ss : List Step) : allTexts ss = ss.flatMap texts := by
  induction ss with
  | nil => exact allTexts_nil
  | cons s ss ih => rw [allTexts_cons, List.flatMap_cons, ih]

@[simp] theorem allTexts_append (ss ts : List Step) :
    allTexts (ss ++ ts) = allTexts ss ++ allTexts ts := by
  simp only [allTexts_eq_flatMap, List.flatMap_append]

@[simp] theorem allTexts_flatMap {α : Type} (f : α → List Step) (xs : List α) :
    allTexts (xs.flatMap f) = xs.flatMap fun x => allTexts (f x) := by
  simp only [allTexts_eq_flatMap, List.flatMap_assoc]

@[simp] theorem allTexts_map {α : Type} (f : α → Step) (xs : List α) :
    allTexts (xs.map f) = xs.flatMap fun x => (f x).texts := by
  rw [allTexts_eq_flatMap, List.flatMap_map]

@[simp] theorem allTexts_within (opening closing : String) (body : List Step) :
    allTexts (within opening closing body) = opening :: allTexts body ++ [closing] := by
  simp [within]

def AllLines (P : String → Prop) (ss : List Step) : Prop := ∀ text ∈ allTexts ss, P text

variable {P : String → Prop}

@[simp] theorem allLines_nil : AllLines P [] := by simp [AllLines]

@[simp] theorem allLines_line_cons (s : String) (ss : List Step) :
    AllLines P (line s :: ss) ↔ P s ∧ AllLines P ss := by simp [AllLines]

@[simp] theorem allLines_lines_cons (texts : List String) (ss : List Step) :
    AllLines P (lines texts :: ss) ↔ (∀ text ∈ texts, P text) ∧ AllLines P ss := by
  simp [AllLines, or_imp, forall_and]

@[simp] theorem allLines_blank_cons (ss : List Step) :
    AllLines P (blank :: ss) ↔ AllLines P ss := by simp [AllLines]

@[simp] theorem allLines_braces_cons (header : String) (body ss : List Step) :
    AllLines P (braces header body :: ss) ↔
      P header ∧ AllLines P body ∧ P "\x7d" ∧ AllLines P ss := by
  simp [AllLines, or_imp, forall_and]

@[simp] theorem allLines_block_cons (header close : String) (body ss : List Step) :
    AllLines P (block header close body :: ss) ↔
      P header ∧ AllLines P body ∧ P close ∧ AllLines P ss := by
  simp [AllLines, texts, or_imp, forall_and]

@[simp] theorem allLines_within (opening closing : String) (body : List Step) :
    AllLines P (within opening closing body) ↔ P opening ∧ AllLines P body ∧ P closing := by
  simp [AllLines, or_imp, forall_and]

@[simp] theorem allLines_map_line {α : Type} (f : α → String) (xs : List α) :
    AllLines P (xs.map fun x => line (f x)) ↔ ∀ x ∈ xs, P (f x) := by
  simp only [AllLines, allTexts_map, texts_line, ← List.map_eq_flatMap, List.forall_mem_map]

@[simp] theorem allLines_append (ss ts : List Step) :
    AllLines P (ss ++ ts) ↔ AllLines P ss ∧ AllLines P ts := by
  simp [AllLines, or_imp, forall_and]

@[simp] theorem allLines_flatMap {α : Type} (f : α → List Step) (xs : List α) :
    AllLines P (xs.flatMap f) ↔ ∀ x ∈ xs, AllLines P (f x) := by
  simp only [AllLines, allTexts_flatMap, List.forall_mem_flatMap]

mutual

def blocks : Step → List (String × List Step)
  | .line _ | .lines _ | .blank | .indent | .dedent | .summary _ => []
  | .block header _ body => (header, body) :: allBlocks body

/-- The headers and bodies of all blocks in the steps, each ahead of those within it. -/
def allBlocks : List Step → List (String × List Step)
  | [] => []
  | s :: ss => s.blocks ++ allBlocks ss

end

@[simp] theorem allBlocks_nil : allBlocks [] = [] := by rw [allBlocks]

theorem allBlocks_cons (s : Step) (ss : List Step) :
    allBlocks (s :: ss) = s.blocks ++ allBlocks ss := by rw [allBlocks]

@[simp] theorem allBlocks_line_cons (text : String) (ss : List Step) :
    allBlocks (line text :: ss) = allBlocks ss := by
  rw [allBlocks_cons, blocks, List.nil_append]

@[simp] theorem allBlocks_lines_cons (texts : List String) (ss : List Step) :
    allBlocks (lines texts :: ss) = allBlocks ss := by
  rw [allBlocks_cons, blocks, List.nil_append]

@[simp] theorem allBlocks_blank_cons (ss : List Step) :
    allBlocks (blank :: ss) = allBlocks ss := by
  rw [allBlocks_cons, blocks, List.nil_append]

@[simp] theorem allBlocks_braces_cons (header : String) (body ss : List Step) :
    allBlocks (braces header body :: ss) = (header, body) :: allBlocks body ++ allBlocks ss := by
  rw [allBlocks_cons, braces, blocks]

@[simp] theorem allBlocks_append (ss ts : List Step) :
    allBlocks (ss ++ ts) = allBlocks ss ++ allBlocks ts := by
  induction ss with
  | nil => rw [allBlocks_nil, List.nil_append, List.nil_append]
  | cons s ss ih => rw [List.cons_append, allBlocks_cons, allBlocks_cons, ih, List.append_assoc]

@[simp] theorem allBlocks_flatMap {α : Type} (f : α → List Step) (xs : List α) :
    allBlocks (xs.flatMap f) = xs.flatMap fun x => allBlocks (f x) := by
  induction xs with
  | nil => exact allBlocks_nil
  | cons x xs ih => rw [List.flatMap_cons, allBlocks_append, ih, List.flatMap_cons]

def EveryBlock (P : String × List Step → Prop) (ss : List Step) : Prop := ∀ b ∈ allBlocks ss, P b

section EveryBlock

variable {P : String × List Step → Prop}

@[simp] theorem everyBlock_nil : EveryBlock P [] := by simp [EveryBlock]

@[simp] theorem everyBlock_line_cons (text : String) (ss : List Step) :
    EveryBlock P (line text :: ss) ↔ EveryBlock P ss := by simp [EveryBlock]

@[simp] theorem everyBlock_lines_cons (texts : List String) (ss : List Step) :
    EveryBlock P (lines texts :: ss) ↔ EveryBlock P ss := by simp [EveryBlock]

@[simp] theorem everyBlock_blank_cons (ss : List Step) :
    EveryBlock P (blank :: ss) ↔ EveryBlock P ss := by simp [EveryBlock]

@[simp] theorem everyBlock_braces_cons (header : String) (body ss : List Step) :
    EveryBlock P (braces header body :: ss) ↔
      P (header, body) ∧ EveryBlock P body ∧ EveryBlock P ss := by
  simp only [EveryBlock, allBlocks_braces_cons, List.cons_append, List.forall_mem_cons,
    List.forall_mem_append]

@[simp] theorem everyBlock_append (ss ts : List Step) :
    EveryBlock P (ss ++ ts) ↔ EveryBlock P ss ∧ EveryBlock P ts := by
  simp only [EveryBlock, allBlocks_append, List.forall_mem_append]

@[simp] theorem everyBlock_flatMap {α : Type} (f : α → List Step) (xs : List α) :
    EveryBlock P (xs.flatMap f) ↔ ∀ x ∈ xs, EveryBlock P (f x) := by
  simp only [EveryBlock, allBlocks_flatMap, List.forall_mem_flatMap]

@[simp] theorem everyBlock_map_line {α : Type} (f : α → String) (xs : List α) :
    EveryBlock P (xs.map fun x => line (f x)) := by
  induction xs with
  | nil => exact everyBlock_nil
  | cons x xs ih => rwa [List.map_cons, everyBlock_line_cons]

end EveryBlock

/-- The blocks whose headers begin with `p`. -/
def headed (p : String) (ss : List Step) : List (String × List Step) :=
  (allBlocks ss).filter fun block => p.toList.isPrefixOf block.1.toList

variable {p : String}

theorem mem_headed {ss : List Step} {block : String × List Step} :
    block ∈ headed p ss ↔ block ∈ allBlocks ss ∧ p.toList <+: block.1.toList := by
  rw [headed, List.mem_filter, List.isPrefixOf_iff_prefix]

@[simp] theorem headed_nil : headed p [] = [] := by simp [headed]

@[simp] theorem headed_line_cons (text : String) (ss : List Step) :
    headed p (line text :: ss) = headed p ss := by simp [headed]

@[simp] theorem headed_lines_cons (texts : List String) (ss : List Step) :
    headed p (lines texts :: ss) = headed p ss := by simp [headed]

@[simp] theorem headed_blank_cons (ss : List Step) : headed p (blank :: ss) = headed p ss := by
  simp [headed]

@[simp] theorem headed_append (ss ts : List Step) :
    headed p (ss ++ ts) = headed p ss ++ headed p ts := by simp [headed]

@[simp] theorem headed_flatMap {α : Type} (f : α → List Step) (xs : List α) :
    headed p (xs.flatMap f) = xs.flatMap fun x => headed p (f x) := by
  simp [headed, List.filter_flatMap]

@[simp] theorem headed_map_line {α : Type} (f : α → String) (xs : List α) :
    headed p (xs.map fun x => line (f x)) = [] := by
  induction xs with
  | nil => exact headed_nil
  | cons x xs ih => rw [List.map_cons, headed_line_cons, ih]

theorem headed_braces_cons {header : String} (h : Text.differs p header) (body ss : List Step) :
    headed p (braces header body :: ss) = headed p body ++ headed p ss := by
  have hnone : ¬ p.toList <+: header.toList := Text.not_starts_of_differs h
  simp [headed, hnone]

theorem headed_braces_append_cons {s : String} (h : Text.differs p s) (t : String)
    (body ss : List Step) :
    headed p (braces (s ++ t) body :: ss) = headed p body ++ headed p ss :=
  headed_braces_cons (Text.differs_append h t) body ss

theorem headed_braces_cons_of_starts {header : String} (h : p.toList <+: header.toList)
    (body ss : List Step) :
    headed p (braces header body :: ss) = (header, body) :: headed p body ++ headed p ss := by
  simp [headed, h]

end Scaffold.Step
