import Scaffold.Statement.Template
import Scaffold.Proofs.Text.Replace

/-! Statements taken apart into parameters and the text between them. -/
namespace Scaffold

inductive Piece
  | text (s : String)
  | parameter (name : String)
deriving DecidableEq

namespace Piece

def content : Piece → String
  | text s => s
  | parameter name => name

def print : Piece → String
  | text s => s
  | parameter name => "@" ++ name

def name? : Piece → Option String
  | text _ => none
  | parameter name => some name

def fill (mark value : String) : Piece → Piece
  | text s => text (Text.replace mark value s)
  | parameter name => parameter (Text.replace mark value name)

/-- A parameter goes on with the suffix, and a text stays. -/
def suffixed (suffix : String) : Piece → Piece
  | text s => text s
  | parameter name => parameter (name ++ suffix)

def printAll (ps : List Piece) : String := String.join (ps.map print)

def parameters (ps : List Piece) : List String := ps.filterMap name?

/-- Groups of pieces with a text between them. -/
def between (sep : String) (groups : List (List Piece)) : List Piece :=
  [text sep].intercalate groups

@[simp] theorem printAll_nil : printAll [] = "" := by simp [printAll]

@[simp] theorem printAll_cons (p : Piece) (ps : List Piece) :
    printAll (p :: ps) = p.print ++ printAll ps := by
  simp [printAll]

@[simp] theorem printAll_append (ps qs : List Piece) :
    printAll (ps ++ qs) = printAll ps ++ printAll qs := by
  simp [printAll]

@[simp] theorem parameters_nil : parameters [] = [] := rfl

@[simp] theorem parameters_cons_text (s : String) (ps : List Piece) :
    parameters (text s :: ps) = parameters ps := rfl

@[simp] theorem parameters_cons_parameter (name : String) (ps : List Piece) :
    parameters (parameter name :: ps) = name :: parameters ps := rfl

@[simp] theorem parameters_append (ps qs : List Piece) :
    parameters (ps ++ qs) = parameters ps ++ parameters qs := by
  simp [parameters]

@[simp] theorem between_nil (sep : String) : between sep [] = [] := rfl

@[simp] theorem between_singleton (sep : String) (ps : List Piece) : between sep [ps] = ps := by
  simp [between]

@[simp] theorem between_cons_cons (sep : String) (ps qs : List Piece) (rest : List (List Piece)) :
    between sep (ps :: qs :: rest) = ps ++ text sep :: between sep (qs :: rest) := by
  simp [between]

theorem printAll_between (sep : String) (groups : List (List Piece)) :
    printAll (between sep groups) = sep.intercalate (groups.map printAll) := by
  induction groups with
  | nil => simp
  | cons ps rest ih =>
    cases rest with
    | nil => simp
    | cons qs rest =>
      rw [between_cons_cons, printAll_append, printAll_cons, ih, List.map_cons, List.map_cons,
        List.map_cons, String.intercalate_cons_cons, String.append_assoc, print]

theorem parameters_between (sep : String) (groups : List (List Piece)) :
    parameters (between sep groups) = groups.flatMap parameters := by
  induction groups with
  | nil => rfl
  | cons ps rest ih =>
    cases rest with
    | nil => simp
    | cons qs rest =>
      rw [between_cons_cons, parameters_append, parameters_cons_text, List.flatMap_cons, ih]

/-- Groups with one parameter each. -/
theorem parameters_between_map {α : Type} (sep : String) {g : α → List Piece} {f : α → String}
    (h : ∀ x, parameters (g x) = [f x]) (xs : List α) :
    parameters (between sep (xs.map g)) = xs.map f := by
  rw [parameters_between, List.flatMap_map, List.map_eq_flatMap]
  simp only [h]

theorem mem_between {sep : String} {groups : List (List Piece)} {p : Piece}
    (h : p ∈ between sep groups) : p = text sep ∨ ∃ ps ∈ groups, p ∈ ps := by
  induction groups with
  | nil => simp at h
  | cons ps rest ih =>
    cases rest with
    | nil => exact .inr ⟨ps, by simp, by simpa using h⟩
    | cons qs rest =>
      rw [between_cons_cons, List.mem_append, List.mem_cons] at h
      rcases h with hp | heq | hrest
      · exact .inr ⟨ps, by simp, hp⟩
      · exact .inl heq
      · exact (ih hrest).imp id fun ⟨g, hg, hp⟩ => ⟨g, by simp [hg], hp⟩

theorem forall_mem_between {P : Piece → Prop} {sep : String} (h : P (text sep))
    (groups : List (List Piece)) :
    (∀ p ∈ between sep groups, P p) ↔ ∀ ps ∈ groups, ∀ p ∈ ps, P p := by
  induction groups with
  | nil => simp
  | cons ps rest ih =>
    cases rest with
    | nil => simp
    | cons qs rest =>
      have hgroups : (∀ gs ∈ ps :: qs :: rest, ∀ p ∈ gs, P p) ↔
          (∀ p ∈ ps, P p) ∧ ∀ gs ∈ qs :: rest, ∀ p ∈ gs, P p := List.forall_mem_cons
      rw [between_cons_cons, List.forall_mem_append, List.forall_mem_cons, ih, hgroups]
      simp only [h, true_and]

theorem map_between {f : Piece → Piece} {sep sep' : String} (h : f (text sep) = text sep')
    (groups : List (List Piece)) :
    (between sep groups).map f = between sep' (groups.map (List.map f)) := by
  induction groups with
  | nil => rfl
  | cons ps rest ih =>
    cases rest with
    | nil => simp
    | cons qs rest =>
      rw [between_cons_cons, List.map_append, List.map_cons, ih, h]
      simp

/-- The printed piece does not go on with anything that could end a mark begun before it. -/
def Opens (mark : String) (p : Piece) : Prop :=
  ∀ c ∈ p.print.toList.head?, c ∉ mark.toList.tail

variable {mark value : String}

theorem print_fill (hat : '@' ∉ mark.toList) (p : Piece) :
    (p.fill mark value).print = Text.replace mark value p.print := by
  cases p with
  | text s => rfl
  | parameter name =>
    have hfirst : ∀ c ∈ mark.toList.head?, c ∉ "@".toList := by
      intro c hc heq
      have : c = '@' := by simpa using heq
      exact hat (this ▸ List.mem_of_mem_head? hc)
    exact (Text.replace_append_of_not_mem hfirst).symm

theorem opens_parameter (hat : '@' ∉ mark.toList) (name : String) :
    (parameter name).Opens mark := by
  intro c hc htail
  have : c = '@' := by simpa [print, eq_comm] using hc
  exact hat (List.mem_of_mem_tail (this ▸ htail))

theorem head_printAll {ps : List Piece} (h : ∀ p ∈ ps, p.Opens mark) :
    ∀ c ∈ (printAll ps).toList.head?, c ∉ mark.toList.tail := by
  induction ps with
  | nil => simp
  | cons p ps ih =>
    intro c hc
    rw [printAll_cons, String.toList_append, List.head?_append, Option.mem_def,
      Option.or_eq_some_iff] at hc
    rcases hc with hp | ⟨-, hps⟩
    · exact h p (by simp) c hp
    · exact ih (fun q hq => h q (by simp [hq])) c hps

/-- No mark lies across two pieces, so a printed statement is filled in piece by piece. -/
theorem replace_printAll (hat : '@' ∉ mark.toList) {ps : List Piece}
    (h : ∀ p ∈ ps, p.Opens mark) :
    Text.replace mark value (printAll ps) = printAll (ps.map (fill mark value)) := by
  induction ps with
  | nil => exact Text.replace_empty
  | cons p ps ih =>
    have hps : ∀ q ∈ ps, q.Opens mark := fun q hq => h q (by simp [hq])
    rw [printAll_cons, Text.replace_append (head_printAll hps), ih hps, List.map_cons,
      printAll_cons, print_fill hat]

theorem count_printAll {ps : List Piece} (h : ∀ p ∈ ps, '@' ∉ p.content.toList) :
    (printAll ps).toList.count '@' = (parameters ps).length := by
  induction ps with
  | nil => simp
  | cons p ps ih =>
    have hp : p.content.toList.count '@' = 0 := List.count_eq_zero.mpr (h p (by simp))
    have hps := ih fun q hq => h q (by simp [hq])
    rw [printAll_cons, String.toList_append, List.count_append, hps]
    cases p with
    | text s =>
      have hs : s.toList.count '@' = 0 := hp
      simp [print, hs]
    | parameter name =>
      have hname : name.toList.count '@' = 0 := hp
      simp [print, hname, Nat.add_comm]

end Piece

end Scaffold
