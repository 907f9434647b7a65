import Scaffold.Proofs.Client.Reading

/-! Sources are read back from their texts. -/
namespace Scaffold.Client

open Step (Unbroken)

/-- Blocks with a header of one line, whose closing line cannot be taken for an import. -/
def Enclosed : Step → Prop
  | .block header close body =>
    Unbroken header ∧ Import.ofLine? close = none ∧ Step.Bracketed body
  | _ => False

theorem head_lines_block {header : String} (h : Unbroken header) (close : String)
    (body : List Step) :
    (((Step.block header close body).placed .endOfHeader 0).flatMap
      Style.endOfHeader.lines).head? = some (header ++ " \x7b") := by
  have hopening : Unbroken (header ++ " \x7b") := Step.unbroken_append.mpr ⟨h, by decide⟩
  have hline : Style.endOfHeader.lines (0, header ++ " \x7b") =
      [Style.endOfHeader.indented (0, header ++ " \x7b")] := Step.lines_indented hopening
  rw [Step.placed, Step.opening, List.map_singleton, List.append_assoc, List.singleton_append,
    List.flatMap_cons, hline, Style.indented_zero]
  rfl

theorem ofLine?_of_deeper {placed : Nat × String} (h : 1 ≤ placed.1) :
    Import.ofLine? (Style.endOfHeader.indented placed) = none := by
  obtain ⟨level, text⟩ := placed
  obtain ⟨n, rfl⟩ := Nat.exists_eq_add_of_le' h
  refine Import.ofLine?_of_head ?_
  rw [Style.indented]
  split
  · decide
  · rw [List.replicate_succ, String.join_cons]
    simp [Style.unit]

/-- Lines within a block do not begin in the first column, and those around them are no imports. -/
theorem ofLine?_of_mem_enclosed {s : Step} (h : Enclosed s) {placed : Nat × String}
    (hmem : placed ∈ s.placed .endOfHeader 0) :
    Import.ofLine? (Style.endOfHeader.indented placed) = none := by
  cases s with
  | block header close body =>
    obtain ⟨-, hclose, hbody⟩ := h
    rw [Step.placed, hbody.levelAfterAll_eq] at hmem
    simp only [Step.opening, List.mem_append, List.mem_map, List.mem_singleton] at hmem
    rcases hmem with (⟨_, rfl, rfl⟩ | hmem) | rfl
    · rw [Style.indented_zero]
      exact Import.ofLine?_of_last (by simp)
    · exact ofLine?_of_deeper (hbody.le_of_mem_allPlaced hmem)
    · rw [Nat.zero_add, Nat.sub_self, Style.indented_zero]
      exact hclose
  | _ => contradiction

theorem allPlaced_enclosed {ss : List Step} (h : ∀ s ∈ ss, Enclosed s) :
    Step.allPlaced .endOfHeader 0 ss = ss.flatMap (Step.placed .endOfHeader 0) := by
  induction ss with
  | nil => exact Step.allPlaced_nil .endOfHeader 0
  | cons s ss ih =>
    obtain ⟨hs, hss⟩ := List.forall_mem_cons.mp h
    have hlevel : s.levelAfter 0 = 0 := by
      cases s with
      | block header close body => rw [Step.levelAfter_block, hs.2.2.levelAfterAll_eq]
      | _ => contradiction
    rw [Step.allPlaced_cons, hlevel, ih hss, List.flatMap_cons]

theorem Decorator.ofLine?_of_mem (d : Decorator) {placed : Nat × String}
    (hmem : placed ∈ Step.allPlaced .endOfHeader 0 d.steps) :
    Import.ofLine? (Style.endOfHeader.indented placed) = .none := by
  cases d with
  | none => simp [Decorator.steps] at hmem
  | injectable =>
    simp [Decorator.steps, Step.within] at hmem
    rcases hmem with rfl | rfl | rfl
    all_goals exact Import.ofLine?_of_head (by decide)
  | component selector templateUrl styleUrls =>
    rw [allPlaced_component] at hmem
    simp only [List.cons_append, List.mem_cons, List.mem_append, List.mem_map, List.not_mem_nil,
      or_false] at hmem
    obtain rfl | ⟨text, -, rfl⟩ | rfl := hmem
    · exact Import.ofLine?_of_head (by decide)
    · exact ofLine?_of_deeper (Nat.le_refl 1)
    · exact Import.ofLine?_of_head (by decide)

theorem Export.Readable.enclosed {e : Export} (h : e.Readable) : Enclosed e.step := by
  have hname := h.name.unbroken
  have hkeyword : Unbroken e.keyword := by
    rcases h.keyword with hkeyword | hkeyword <;> rw [hkeyword] <;> decide
  have hclause : Unbroken e.clause := by
    rcases h.clause with hclause | ⟨rest, hclause, hrest⟩
    · rw [hclause]
      decide
    · rw [hclause]
      exact Step.unbroken_append.mpr ⟨by decide, hrest⟩
  rw [Export.step_eq]
  refine ⟨?_, Import.ofLine?_of_head (by decide), h.body⟩
  simp only [Export.line, Step.unbroken_append, hname, hkeyword, hclause]
  decide

namespace Source

variable {src : Source}

def head (src : Source) : List Step :=
  src.imports.flatMap fun group => group.map Import.step ++ [.blank]

def tail (src : Source) : List Step :=
  src.decorator.steps ++ src.exported.map Export.step ++ src.body

theorem steps_eq (src : Source) : src.steps = src.head ++ src.tail := by
  simp only [steps, head, tail, List.append_assoc]

def headLines (src : Source) : List String :=
  src.imports.flatMap fun group => group.map Import.line ++ [""]

theorem bracketed_group (group : List Import) :
    Step.Bracketed (group.map Import.step ++ [.blank]) :=
  (Step.Bracketed.map_line Import.line group).append (.blank .nil)

theorem bracketed_head (src : Source) : Step.Bracketed src.head :=
  .flatMap fun group _ => bracketed_group group

theorem allPlaced_head (src : Source) :
    Step.allPlaced .endOfHeader 0 src.head = src.headLines.map (0, ·) := by
  have hlines : ∀ group : List Import,
      Step.allPlaced .endOfHeader 0 (group.map Import.step) =
        group.map fun i => (0, i.line) :=
    Step.allPlaced_map_line .endOfHeader 0 Import.line
  have hlevel : ∀ group : List Import, Step.levelAfterAll 0 (group.map Import.step) = 0 :=
    fun group => (Step.Bracketed.map_line Import.line group).levelAfterAll_eq 0
  rw [head, Step.Bracketed.allPlaced_flatMap fun group _ => bracketed_group group, headLines,
    List.map_flatMap]
  refine List.flatMap_congr fun group _ => ?_
  simp [hlines, hlevel]

/-- The lines that follow the head. -/
def tailLines (src : Source) : List String :=
  (Step.allPlaced .endOfHeader 0 src.tail).flatMap
    Style.endOfHeader.lines ++ [""]

def text (src : Source) : String := Step.print .endOfHeader src.steps

theorem mem_headLines {line : String} (h : line ∈ src.headLines) :
    (∃ i ∈ src.imports.flatten, line = i.line) ∨ line = "" := by
  simp only [headLines, List.mem_flatMap, List.mem_append, List.mem_map, List.mem_singleton] at h
  obtain ⟨group, hgroup, ⟨i, hi, rfl⟩ | rfl⟩ := h
  · exact .inl ⟨i, List.mem_flatten.mpr ⟨group, hgroup, hi⟩, rfl⟩
  · exact .inr rfl

section

variable (h : ∀ i ∈ src.imports.flatten, i.Readable)

include h

theorem lines_text : Text.splitAt '\n' src.text = src.headLines ++ src.tailLines := by
  have hline : ∀ line ∈ src.headLines, Text.splitAt '\n' line = [line] := by
    intro line hline
    refine Text.splitAt_of_not_mem ?_
    obtain ⟨i, hi, rfl⟩ | rfl := mem_headLines hline
    · exact (h i hi).unbroken
    · decide
  rw [text, Step.lines_print, steps_eq, Step.allPlaced_append,
    (bracketed_head src).levelAfterAll_eq, allPlaced_head, List.flatMap_append, List.flatMap_map]
  simp only [Style.lines_zero]
  rw [List.flatMap_congr hline, List.flatMap_singleton', tailLines, List.append_assoc]

theorem isHead_of_mem_headLines : ∀ line ∈ src.headLines, isHead line := by
  intro line hline
  obtain ⟨i, hi, rfl⟩ | rfl := mem_headLines hline
  · simp [isHead, Import.ofLine?_line (h i hi)]
  · rfl

theorem filterMap_headLines : src.headLines.filterMap Import.ofLine? = src.imports.flatten := by
  have hblank : Import.ofLine? "" = none := Import.ofLine?_of_head (by decide)
  rw [headLines, List.filterMap_flatMap, List.flatten_eq_flatMap]
  refine List.flatMap_congr fun group hgroup => ?_
  have hread : ∀ i ∈ group, (Import.ofLine? ∘ Import.line) i = some i := fun i hi =>
    Import.ofLine?_line (h i (List.mem_flatten.mpr ⟨group, hgroup, hi⟩))
  rw [List.filterMap_append, List.filterMap_map, List.filterMap_congr hread]
  simp [hblank]

variable {first : String} (htail : src.tailLines.head? = some first) (hfirst : isHead first = false)

include htail hfirst

theorem importsOf_of_first : importsOf src.text = src.imports.flatten := by
  obtain ⟨rest, htail⟩ := List.head?_eq_some_iff.mp htail
  have hstop : src.tailLines.takeWhile isHead = [] := by
    rw [htail, List.takeWhile_cons_of_neg (by simp [hfirst])]
  rw [importsOf, lines_text h, List.takeWhile_append_of_pos (isHead_of_mem_headLines h), hstop,
    List.append_nil, filterMap_headLines h]

theorem dropWhile_of_first : (Text.splitAt '\n' src.text).dropWhile isHead = src.tailLines := by
  obtain ⟨rest, htail⟩ := List.head?_eq_some_iff.mp htail
  rw [lines_text h, List.dropWhile_append_of_pos (isHead_of_mem_headLines h), htail,
    List.dropWhile_cons_of_neg (by simp [hfirst])]

end

/-- What follows the head and the decorator. -/
def restLines (src : Source) : List String :=
  (Step.allPlaced .endOfHeader 0 (src.exported.map Export.step ++ src.body)).flatMap
    Style.endOfHeader.lines ++ [""]

theorem tailLines_eq (src : Source) :
    src.tailLines = (Step.allPlaced .endOfHeader 0 src.decorator.steps).flatMap
      Style.endOfHeader.lines ++ src.restLines := by
  rw [tailLines, tail, List.append_assoc, Step.allPlaced_append,
    (Decorator.bracketed_steps _).levelAfterAll_eq, List.flatMap_append, List.append_assoc]
  rfl

theorem tailLines_of_component {selector templateUrl : String} {styleUrls : List String}
    (hdecorator : src.decorator = .component selector templateUrl styleUrls)
    (h : src.decorator.Readable) :
    src.tailLines = "@Component(\x7b" ::
      (Decorator.propertyTexts selector templateUrl styleUrls).map ("  " ++ ·) ++
        "\x7d)" :: src.restLines := by
  rw [hdecorator] at h
  have hlines : ∀ text ∈ Decorator.propertyTexts selector templateUrl styleUrls,
      Style.endOfHeader.lines (1, text) = ["  " ++ text] := by
    intro text htext
    obtain ⟨hunbroken, hne⟩ := Decorator.unbroken_propertyTexts h text htext
    rw [Step.lines_indented hunbroken, Style.indented, if_neg (by simpa using hne)]
    rfl
  have hopen : Text.splitAt '\n' "@Component(\x7b" = ["@Component(\x7b"] :=
    Text.splitAt_of_not_mem (Step.unbroken_ofList (by decide))
  have hclose : Text.splitAt '\n' "\x7d)" = ["\x7d)"] :=
    Text.splitAt_of_not_mem (Step.unbroken_ofList (by decide))
  rw [tailLines_eq, hdecorator, Decorator.allPlaced_component]
  simp only [List.cons_append, List.flatMap_cons, List.flatMap_append, List.flatMap_map,
    List.flatMap_nil, Style.lines_zero, hopen, hclose, List.flatMap_congr hlines]
  simp [List.map_eq_flatMap]

def blocks (src : Source) : List Step := src.exported.map Export.step ++ src.body

structure Readable (src : Source) : Prop where
  imports : ∀ i ∈ src.imports.flatten, i.Readable
  decorator : src.decorator.Readable
  exported : ∀ e ∈ src.exported, e.Readable
  body : ∀ s ∈ src.body, Enclosed s
  nonempty : src.exported ≠ [] ∨ src.body ≠ []

theorem Readable.blocks (h : src.Readable) : ∀ s ∈ src.blocks, Enclosed s := by
  intro s hs
  rcases List.mem_append.mp hs with hs | hs
  · obtain ⟨e, he, rfl⟩ := List.mem_map.mp hs
    exact (h.exported e he).enclosed
  · exact h.body s hs

theorem restLines_eq (h : src.Readable) :
    src.restLines = src.blocks.flatMap (fun s => (s.placed .endOfHeader 0).flatMap
      Style.endOfHeader.lines) ++ [""] := by
  rw [restLines, ← blocks, allPlaced_enclosed h.blocks, List.flatMap_assoc]

/-- A block follows the head, or a decorator ahead of it. -/
theorem exists_first (h : src.Readable) :
    ∃ first, src.tailLines.head? = some first ∧ isHead first = false ∧
      (src.decorator.resources = [] → first ≠ "@Component(\x7b") := by
  cases hdecorator : src.decorator with
  | component selector templateUrl styleUrls =>
    refine ⟨"@Component(\x7b", ?_, by decide +kernel, by simp [Decorator.resources]⟩
    rw [tailLines_of_component hdecorator h.decorator]
    rfl
  | injectable =>
    have hopen : Text.splitAt '\n' "@Injectable(\x7b" = ["@Injectable(\x7b"] :=
      Text.splitAt_of_not_mem (Step.unbroken_ofList (by decide))
    refine ⟨"@Injectable(\x7b", ?_, by decide +kernel, by decide⟩
    rw [tailLines_eq, hdecorator]
    simp [Decorator.steps, Step.within, hopen]
  | none =>
    have hnonempty : src.blocks ≠ [] := by
      rcases h.nonempty with hnonempty | hnonempty <;> simp [blocks, hnonempty]
    obtain ⟨s, rest, hblocks⟩ := List.exists_cons_of_ne_nil hnonempty
    have hs := h.blocks s (by simp [hblocks])
    cases s with
    | block header close body =>
      refine ⟨header ++ " \x7b", ?_, isHead_of_brace (by simp),
        fun _ => opening_ne_component header⟩
      rw [tailLines_eq, hdecorator, restLines_eq h, hblocks]
      simp [Decorator.steps, head_lines_block hs.1]
    | _ => contradiction

theorem importsOf_text (h : src.Readable) : importsOf src.text = src.imports.flatten := by
  obtain ⟨first, htail, hfirst, -⟩ := exists_first h
  exact importsOf_of_first h.imports htail hfirst

theorem resourcesOf_text (h : src.Readable) : resourcesOf src.text = src.decorator.resources := by
  obtain ⟨first, hhead, hfirst, hne⟩ := exists_first h
  obtain ⟨rest, htail⟩ := List.head?_eq_some_iff.mp hhead
  rw [resourcesOf, dropWhile_of_first h.imports hhead hfirst]
  cases hdecorator : src.decorator with
  | component selector templateUrl styleUrls =>
    have hinside : ∀ line ∈
        (Decorator.propertyTexts selector templateUrl styleUrls).map ("  " ++ ·),
        (line != "\x7d)") = true := by
      intro line hline
      obtain ⟨text, -, rfl⟩ := List.mem_map.mp hline
      rw [bne_iff_ne]
      intro heq
      simpa using congrArg (·.toList.head?) heq
    rw [tailLines_of_component hdecorator h.decorator]
    simp only [List.cons_append, List.takeWhile_append_of_pos hinside]
    rw [List.takeWhile_cons_of_neg (by decide), List.append_nil, List.flatMap_map]
    exact Decorator.resources_propertyTexts (hdecorator ▸ h.decorator)
  | injectable | none =>
    have hother : first ≠ "@Component(\x7b" := hne (by rw [hdecorator]; rfl)
    rw [htail]
    split
    next heq => exact absurd (List.cons.inj heq).1 hother
    next => rfl

theorem mem_exportsOf_text (h : src.Readable) {e : Export} (he : e ∈ src.exported) :
    e.name ∈ exportsOf src.text := by
  have hline : e.line ++ " \x7b" ∈ src.restLines := by
    have hblock : e.step ∈ src.blocks := List.mem_append_left _ (List.mem_map_of_mem he)
    have henclosed := h.blocks _ hblock
    rw [restLines_eq h]
    refine List.mem_append_left _ (List.mem_flatMap.mpr ⟨e.step, hblock, ?_⟩)
    rw [Export.step_eq] at henclosed ⊢
    exact List.mem_of_mem_head? (head_lines_block henclosed.1 _ _)
  refine List.mem_filterMap.mpr ⟨_, ?_, (h.exported e he).exported?_line⟩
  rw [lines_text h.imports, tailLines_eq]
  exact List.mem_append_right _ (List.mem_append_right _ hline)

theorem ofLine?_of_mem_tail (h : src.Readable) {placed : Nat × String}
    (hmem : placed ∈ Step.allPlaced .endOfHeader 0 src.tail) :
    Import.ofLine? (Style.endOfHeader.indented placed) = none := by
  rw [tail, List.append_assoc, ← blocks, Step.allPlaced_append,
    (Decorator.bracketed_steps _).levelAfterAll_eq, allPlaced_enclosed h.blocks] at hmem
  rcases List.mem_append.mp hmem with hmem | hmem
  · exact src.decorator.ofLine?_of_mem hmem
  · obtain ⟨s, hs, hmem⟩ := List.mem_flatMap.mp hmem
    exact ofLine?_of_mem_enclosed (h.blocks s hs) hmem

theorem unbroken_decorator (h : src.decorator.Readable) :
    Step.AllLines Unbroken src.decorator.steps := by
  cases hdecorator : src.decorator with
  | none => simp [Decorator.steps]
  | injectable => simp +decide [Decorator.steps]
  | component selector templateUrl styleUrls =>
    rw [hdecorator] at h
    intro text htext
    rw [Decorator.allTexts_component] at htext
    simp only [List.cons_append, List.mem_cons, List.mem_append, List.not_mem_nil, or_false] at htext
    rcases htext with rfl | htext | rfl
    · decide
    · exact (Decorator.unbroken_propertyTexts h text htext).1
    · decide

/-- Only the bodies of a source can have texts that break their lines. -/
theorem unbroken_steps (h : src.Readable)
    (hexported : ∀ e ∈ src.exported, Step.AllLines Unbroken e.body)
    (hbody : Step.AllLines Unbroken src.body) : Step.AllLines Unbroken src.steps := by
  have himports : Step.AllLines Unbroken src.head := by
    rw [head, Step.allLines_flatMap]
    intro group hgroup
    rw [Step.allLines_append]
    refine ⟨(Step.allLines_map_line Import.line group).mpr fun i hi => ?_, by simp⟩
    exact (h.imports i (List.mem_flatten.mpr ⟨group, hgroup, hi⟩)).unbroken
  have hexports : Step.AllLines Unbroken (src.exported.map Export.step) := by
    intro text htext
    rw [Step.allTexts_map] at htext
    obtain ⟨e, he, htext⟩ := List.mem_flatMap.mp htext
    have henclosed := (h.exported e he).enclosed
    rw [Export.step_eq] at henclosed htext
    rw [Step.texts] at htext
    simp only [List.cons_append, List.mem_cons, List.mem_append, List.not_mem_nil, or_false] at htext
    rcases htext with rfl | htext | rfl
    · exact henclosed.1
    · exact hexported e he text htext
    · decide
  rw [steps_eq, tail, Step.allLines_append, Step.allLines_append, Step.allLines_append]
  exact ⟨himports, ⟨unbroken_decorator h.decorator, hexports⟩, hbody⟩

/-- If no text breaks its line, then all the lines that could be imports stand in the head. -/
theorem filterMap_text (h : src.Readable) (hunbroken : Step.AllLines Unbroken src.steps) :
    (Text.splitAt '\n' src.text).filterMap Import.ofLine? = src.imports.flatten := by
  have htail : (Step.allPlaced .endOfHeader 0 src.tail).filterMap
      (Import.ofLine? ∘ Style.endOfHeader.indented) = [] :=
    List.filterMap_eq_nil_iff.mpr fun placed hmem => ofLine?_of_mem_tail h hmem
  have hblank : [""].filterMap Import.ofLine? = [] :=
    List.filterMap_cons_none (Import.ofLine?_of_head (by decide))
  have hhead : (Import.ofLine? ∘ Style.endOfHeader.indented) ∘ (0, ·) = Import.ofLine? :=
    funext fun line => congrArg Import.ofLine? (Style.indented_zero _ line)
  rw [text, Step.lines_print_of_unbroken hunbroken, steps_eq, Step.allPlaced_append,
    (bracketed_head src).levelAfterAll_eq, allPlaced_head, List.filterMap_append,
    List.filterMap_map, List.filterMap_append, List.filterMap_map, htail, hblank, hhead,
    filterMap_headLines h.imports, List.append_nil, List.append_nil]

end Source

/-- Nothing is read from a file that begins neither with an import nor with a decorator. -/
theorem nothing_read {first : String} {c : Char} (hunbroken : Unbroken first)
    (hhead : first.toList.head? = some c) (hc : c ≠ 'i' ∧ c ≠ '@') (rest : List Step) :
    importsOf (Step.print .endOfHeader (.line first :: rest)) = [] ∧
      resourcesOf (Step.print .endOfHeader (.line first :: rest)) = [] := by
  have hne : first ≠ "" ∧ first ≠ "@Component(\x7b" := by
    constructor
    · rintro rfl
      contradiction
    · rintro rfl
      exact hc.2 (Option.some.inj hhead).symm
  have hread : Import.ofLine? first = none :=
    Import.ofLine?_of_head (by simp [hhead, hc.1])
  have hfirst : isHead first = false := by simp [isHead, hread, hne.1]
  have hlines : ∃ lines, Text.splitAt '\n' (Step.print .endOfHeader (.line first :: rest)) =
      first :: lines := by
    rw [Step.lines_print, Step.allPlaced_cons, Step.placed_line, List.singleton_append,
      List.flatMap_cons, Style.lines_zero, Text.splitAt_of_not_mem hunbroken]
    exact ⟨_, rfl⟩
  obtain ⟨lines, hlines⟩ := hlines
  constructor
  · rw [importsOf, hlines, List.takeWhile_cons_of_neg (by simp [hfirst])]
    rfl
  · rw [resourcesOf, hlines, List.dropWhile_cons_of_neg (by simp [hfirst])]
    split
    next heq => exact absurd (List.cons.inj heq).1 hne.2
    next => rfl

end Scaffold.Client
