import Scaffold.Backend.Access
import Scaffold.Proofs.Layout
import Scaffold.Proofs.Text.Escaped

/-! The lines of the data-access class that bind a parameter, and those that declare a constant. -/
namespace Scaffold.Backend.Access

/-- Where a parameter is bound: alone, or in the loop over a chunk. -/
inductive Place
  | alone
  | indexed

namespace Place

def separator : Place → String
  | alone => ", "
  | indexed => " + i, "

def id : Place → String
  | alone => "id"
  | indexed => "ids[i]"

def item : Place → String
  | alone => "item"
  | indexed => "items[i]"

theorem separator_append_inj {p q : Place} {r s : String}
    (h : p.separator ++ r = q.separator ++ s) : p = q ∧ r = s := by
  have hfirst := congrArg (fun text => text.toList.head?) h
  cases p <;> cases q <;> simp [separator] at hfirst <;> simp_all [separator]

end Place

namespace Binding

def text (b : Binding) (p : Place) : String :=
  s!"sqlCommand.Parameters.AddWithValue({literal b.parameter}{p.separator}{b.value p.id p.item});"

@[simp] theorem texts_single (b : Binding) : b.single.texts = [b.text .alone] := Step.texts_line _

@[simp] theorem texts_indexed (b : Binding) : b.indexed.texts = [b.text .indexed] :=
  Step.texts_line _

theorem text_eq (b : Binding) (p : Place) :
    b.text p = "sqlCommand.Parameters.AddWithValue(" ++
      (literal b.parameter ++ (p.separator ++ (b.value p.id p.item ++ ");"))) :=
  Text.append_four _ _ _ _ _

theorem text_starts (b : Binding) (p : Place) : "s".toList <+: (b.text p).toList := by
  rw [text_eq]
  exact Text.starts_append (by decide) _

/-- The second character tells the kinds of value apart. -/
theorem source_of_value_eq {b c : Binding} {p : Place}
    (h : b.value p.id p.item = c.value p.id p.item) : b.source = c.source := by
  have hsecond := congrArg (fun text => text.toList[1]?) h
  cases p <;> rcases b with ⟨_, _ | _ | _⟩ <;> rcases c with ⟨_, _ | _ | _⟩ <;>
    simp [value, Place.id, Place.item, toString] at hsecond <;>
    simp_all [value, Place.id, Place.item, toString]

/-- A line is read back as the binding that it was written for, and its place. -/
theorem text_injective {b c : Binding} {p q : Place} (h : b.text p = c.text q) :
    b = c ∧ p = q := by
  rw [text_eq, text_eq] at h
  obtain ⟨hname, hrest⟩ := literal_append_inj ((String.append_right_inj _).mp h)
  obtain ⟨rfl, hvalue⟩ := Place.separator_append_inj hrest
  have hcolumn : b.column = c.column := (String.append_right_inj _).mp hname
  have hsource := source_of_value_eq ((String.append_left_inj _).mp hvalue)
  cases b
  cases c
  simp_all

end Binding

/-- Only declarations of constants begin like that. -/
def constantStart : String := "private const "

/-- Among the lines of the class, a command's own calls begin with an `s`. -/
def Plain (line : String) : Prop := Text.differs "s" line ∧ Text.differs constantStart line

theorem Plain.append {s : String} (h : Plain s) (t : String) : Plain (s ++ t) :=
  h.imp (Text.differs_append · t) (Text.differs_append · t)

theorem plain_ofList {cs : List Char} (hcall : (cs.zip "s".toList).any fun x => x.1 != x.2)
    (hconstant : (cs.zip constantStart.toList).any fun x => x.1 != x.2) :
    Plain (String.ofList cs) :=
  ⟨Text.differs_ofList hcall, Text.differs_ofList hconstant⟩

theorem Binding.not_plain_text (b : Binding) (p : Place) : ¬ Plain (b.text p) := fun h =>
  Text.not_starts_of_differs h.1 (b.text_starts p)

/-- The line declares a constant, it binds one of `bs`, or it does neither. -/
def Accounted (m : Model) (bs : List Binding) (line : String) : Prop :=
  Plain line ∨ line ∈ Step.allTexts (constants m) ∨ ∃ b ∈ bs, ∃ p, b.text p = line

variable {bs : List Binding} {m : Model}

theorem allLines_single_cons {P : String → Prop} (b : Binding) (ss : List Step) :
    Step.AllLines P (b.single :: ss) ↔ P (b.text .alone) ∧ Step.AllLines P ss := by
  simp [Step.AllLines]

theorem accounted_map {cs : List Binding} (h : cs ⊆ bs) (p : Place) {step : Binding → Step}
    (hstep : ∀ b, (step b).texts = [b.text p]) :
    Step.AllLines (Accounted m bs) (cs.map step) := by
  intro line hline
  simp only [Step.allTexts_map, hstep, List.mem_flatMap, List.mem_singleton] at hline
  obtain ⟨b, hb, rfl⟩ := hline
  exact .inr (.inr ⟨b, h hb, p, rfl⟩)

theorem accounted_constants : Step.AllLines (Accounted m bs) (constants m) := fun _ hline =>
  .inr (.inl hline)

/-- Constants call nothing. -/
theorem text_not_mem_constants (b : Binding) (p : Place) :
    b.text p ∉ Step.allTexts (constants m) := by
  have hcalls : Step.AllLines (fun line => Text.differs "s" line) (constants m) := by
    simp only [constants, Step.allLines_lines_cons, Step.allLines_blank_cons, Step.allLines_nil,
      List.forall_mem_map, and_true, toString]
    and_intros <;> intro c _
    -- What stands in front of all interpolated parts is a literal.
    all_goals repeat with_reducible apply Text.differs_append
    all_goals exact Text.differs_ofList (by decide)
  exact fun hline => Text.not_starts_of_differs (hcalls _ hline) (b.text_starts p)

theorem accounted_emptyGuard (s : BulkShape) : Step.AllLines (Accounted m bs) s.emptyGuard := by
  rcases s with ⟨returns, input, inputType, _ | _⟩
  all_goals
    simp only [BulkShape.emptyGuard, Step.allLines_braces_cons, Step.allLines_line_cons,
      Step.allLines_blank_cons, Step.allLines_nil, and_true, toString, reduceIte,
      Bool.false_eq_true]
    and_intros <;> refine .inl ?_
  all_goals repeat with_reducible apply Plain.append
  all_goals exact plain_ofList (by decide) (by decide)

theorem accounted_loop (s : BulkShape) (op : Bulk) (v : Connection) :
    Step.AllLines (Accounted m bs) (s.loop op v) := by
  rcases s with ⟨returns, input, inputType, _ | _⟩
  all_goals
    simp only [BulkShape.loop, Step.allLines_braces_cons, Step.allLines_line_cons,
      Step.allLines_nil, and_true, toString, reduceIte, Bool.false_eq_true]
    and_intros <;> refine .inl ?_
  all_goals repeat with_reducible apply Plain.append
  all_goals exact plain_ofList (by decide) (by decide)

theorem accounted_ambientMethods : Step.AllLines (Accounted m bs) (ambientMethods m) := by
  rw [ambientMethods, Step.allLines_append, Step.allLines_flatMap, Step.allLines_flatMap]
  constructor
  · rintro ⟨signature, call⟩ _
    simp only [ambientScope, Step.allLines_braces_cons, Step.allLines_line_cons,
      Step.allLines_blank_cons, Step.allLines_nil, and_true, toString]
    and_intros <;> refine .inl ?_
    all_goals repeat with_reducible apply Plain.append
    all_goals exact plain_ofList (by decide) (by decide)
  · intro op _
    simp only [ambientScope, Step.allLines_braces_cons, Step.allLines_line_cons,
      Step.allLines_blank_cons, Step.allLines_append, Step.allLines_nil, accounted_emptyGuard,
      accounted_loop, true_and, and_true, toString]
    and_intros <;> refine .inl ?_
    all_goals repeat with_reducible apply Plain.append
    all_goals exact plain_ofList (by decide) (by decide)

theorem accounted_insertResult : Step.AllLines (Accounted m bs) (insertResult m) := by
  unfold insertResult executeCount
  split
  all_goals
    simp only [Step.allLines_line_cons, Step.allLines_nil, and_true]
    and_intros <;> exact .inl (plain_ofList (by decide) (by decide))

/-- All that the methods of the class bind. -/
def bound (m : Model) : List Binding := idBinding m :: updateBindings m

theorem rowBindings_subset (op : Bulk) : rowBindings m op ⊆ bound m := by
  intro b hb
  cases op <;> simp [rowBindings, bound, updateBindings] at hb ⊢ <;> grind

theorem accounted_suppliedMethods :
    Step.AllLines (Accounted m (bound m)) (suppliedMethods m) := by
  have hid : Accounted m (bound m) ((idBinding m).text .alone) :=
    .inr (.inr ⟨_, List.mem_cons_self, _, rfl⟩)
  have hinsert : Step.AllLines (Accounted m (bound m)) ((insertBindings m).map Binding.single) :=
    accounted_map (rowBindings_subset .insertMultiple) .alone Binding.texts_single
  have hupdate : Step.AllLines (Accounted m (bound m)) ((updateBindings m).map Binding.single) :=
    accounted_map (List.subset_cons_self _ _) .alone Binding.texts_single
  rw [suppliedMethods, Step.allLines_append, Step.allLines_flatMap]
  constructor
  · simp only [command, newTable, fillTable, executeCount, allRows, Step.allLines_braces_cons,
      Step.allLines_line_cons, Step.allLines_blank_cons, Step.allLines_append, Step.allLines_nil,
      allLines_single_cons, hid, hinsert, hupdate, accounted_insertResult, true_and, and_true,
      toString]
    and_intros <;> refine .inl ?_
    all_goals repeat with_reducible apply Plain.append
    all_goals exact plain_ofList (by decide) (by decide)
  · intro op _
    simp only [Step.allLines_braces_cons, Step.allLines_blank_cons, Step.allLines_nil,
      Step.allLines_append, Step.allLines_line_cons, accounted_emptyGuard, accounted_loop,
      true_and, and_true, toString]
    and_intros <;> refine .inl ?_
    all_goals repeat with_reducible apply Plain.append
    all_goals exact plain_ofList (by decide) (by decide)

/-- A worker returns a number or a list, and neither is called `const`. -/
theorem plain_private (op : Bulk) : Plain ("private " ++ (BulkShape.of m op).returns) := by
  cases op with
  | getMultiple =>
    simp only [BulkShape.of, toString, ← String.append_assoc]
    exact .append (.append ⟨by decide, by decide⟩ _) _
  | insertMultiple | updateMultiple | deleteMultiple =>
    change Plain ("private " ++ "int")
    exact ⟨by decide, by decide⟩

theorem accounted_chunkWorker (op : Bulk) :
    Step.AllLines (Accounted m (bound m)) (chunkWorker m op) := by
  have hrow : Step.AllLines (Accounted m (bound m)) ((rowBindings m op).map Binding.indexed) :=
    accounted_map (rowBindings_subset op) .indexed Binding.texts_indexed
  have hheader : ∀ rest, Plain ("private " ++ (BulkShape.of m op).returns ++ rest) :=
    (plain_private op).append
  cases hcollects : (BulkShape.of m op).collectsRows
  all_goals
    simp only [chunkWorker, hcollects, command, newTable, fillTable, executeCount, allRows,
      Step.allLines_braces_cons, Step.allLines_line_cons, Step.allLines_blank_cons,
      Step.allLines_append, Step.allLines_nil, hrow, true_and, and_true, toString, reduceIte,
      Bool.false_eq_true]
    refine ⟨.inl ?_, ?_⟩
    · simpa only [String.append_assoc] using hheader _
    and_intros <;> refine .inl ?_
  all_goals repeat with_reducible apply Plain.append
  all_goals exact plain_ofList (by decide) (by decide)

theorem accounted_helpers : Step.AllLines (Accounted m bs) helpers := by
  simp only [helpers, Step.allLines_braces_cons, Step.allLines_line_cons,
    Step.allLines_blank_cons, Step.allLines_nil, and_true, toString]
  and_intros <;> refine .inl ?_
  all_goals repeat with_reducible apply Plain.append
  all_goals exact plain_ofList (by decide) (by decide)

theorem accounted_region {name : String} {body : List Step}
    (h : Step.AllLines (Accounted m bs) body) :
    Step.AllLines (Accounted m bs) (region name body) := by
  simp only [region, List.cons_append, Step.allLines_line_cons, Step.allLines_blank_cons,
    Step.allLines_append, Step.allLines_nil, h, true_and, and_true, toString]
  and_intros <;> exact .inl (.append (plain_ofList (by decide) (by decide)) _)

/-- Whatever constant or parameter a line of the class is about, it is one of those listed. -/
theorem accounted_access : Step.AllLines (Accounted m (bound m)) (access m) := by
  have hworkers : Step.AllLines (Accounted m (bound m)) (chunkWorkers m ++ helpers) := by
    rw [chunkWorkers, Step.allLines_append, Step.allLines_flatMap]
    exact ⟨fun op _ => accounted_chunkWorker op, accounted_helpers⟩
  simp only [access, List.append_assoc, List.cons_append, Step.allLines_lines_cons,
    Step.allLines_braces_cons, Step.allLines_blank_cons, Step.allLines_append, Step.allLines_nil,
    accounted_constants, accounted_region, accounted_ambientMethods, accounted_suppliedMethods,
    hworkers, List.forall_mem_cons, List.not_mem_nil, false_implies, implies_true, true_and,
    and_true, toString]
  and_intros <;> refine .inl ?_
  all_goals repeat with_reducible apply Plain.append
  all_goals exact plain_ofList (by decide) (by decide)

theorem text_mem_access {b : Binding} (hb : b ∈ updateBindings m) :
    b.text .alone ∈ Step.allTexts (access m) := by
  have hbody : b.text .alone ∈ Step.allTexts ((updateBindings m).map Binding.single) := by
    simp only [Step.allTexts_map, Binding.texts_single, List.mem_flatMap, List.mem_singleton]
    exact ⟨b, hb, rfl⟩
  have hmethods : b.text .alone ∈ Step.allTexts (suppliedMethods m) := by
    simp only [suppliedMethods, command, Step.allTexts_append, Step.allTexts_cons,
      Step.texts_braces, List.mem_append, List.mem_cons, hbody, true_or, or_true]
  simp only [access, region, Step.allTexts_append, Step.allTexts_cons, Step.texts_braces,
    List.cons_append, List.mem_append, List.mem_cons, hmethods, true_or, or_true]

end Scaffold.Backend.Access
