import Scaffold.Backend.Entity
import Scaffold.Proofs.Layout
import Scaffold.Proofs.Text.Escaped
import Scaffold.Proofs.Text.Split

/-! The lines of the entity class that declare a property. -/
namespace Scaffold.Backend

variable {m : Model} {type : BackendType} {name : String}

/-- What stands behind the name of a property. -/
def accessors : String := " \x7b get; set; \x7d"

/-- The line that declares a property. -/
def propertyLine (type : BackendType) (name : String) : String :=
  "public " ++ type.text ++ " " ++ name ++ accessors

/-- Some line of the entity class declares a property of that name. -/
def Declares (m : Model) (name : String) : Prop :=
  ∃ type, propertyLine type name ∈ Step.allTexts (entity m)

theorem blank_not_mem_text (type : BackendType) : ' ' ∉ type.text.toList := by
  cases type <;> decide

theorem propertyLine_eq (type : BackendType) (name : String) :
    propertyLine type name = "public " ++ (type.text ++ " " ++ (name ++ accessors)) := by
  simp only [propertyLine, String.append_assoc]

/-- The type ends at the first blank, so that a declaration says which name it declares. -/
theorem name_of_propertyLine_eq {type' : BackendType} {name' : String}
    (h : propertyLine type name = propertyLine type' name') : name = name' := by
  rw [propertyLine_eq, propertyLine_eq, String.append_right_inj,
    Text.append_sep_eq_iff_of_not_mem_left (by decide) (blank_not_mem_text type)
      (blank_not_mem_text type')] at h
  exact (String.append_left_inj _).mp h.2

/-- A line that declares no property. -/
def NoProperty (line : String) : Prop := ∀ type name, propertyLine type name ≠ line

theorem noProperty_of_differs {line : String} (h : Text.differs "public " line) :
    NoProperty line := by
  rintro type name rfl
  refine Text.not_starts_of_differs h ?_
  rw [propertyLine_eq]
  exact Text.starts_self_append _ _

/-- How a declaration ends is fixed. -/
theorem noProperty_of_end {last : String} (hlen : last.length ≤ accessors.length)
    (h : ¬ last.toList <:+ accessors.toList) (front : String) : NoProperty (front ++ last) := by
  intro type name heq
  have hline : accessors.toList <:+ (front ++ last).toList := by
    rw [← heq, propertyLine, String.toList_append]
    exact List.suffix_append _ _
  rw [String.toList_append] at hline
  exact h (List.suffix_of_suffix_length_le (List.suffix_append _ _) hline
    (by rwa [String.length_toList, String.length_toList]))

/-- No type is called `class`. -/
theorem noProperty_class (entity : String) : NoProperty ("public class " ++ entity) := by
  intro type name h
  have hwords : ("public class " : String) = "public " ++ "class" ++ " " := by decide
  have hclass : "public class " ++ entity = "public " ++ ("class" ++ " " ++ entity) := by
    simp only [hwords, String.append_assoc]
  rw [propertyLine_eq, hclass, String.append_right_inj,
    Text.append_sep_eq_iff_of_not_mem_left (by decide) (blank_not_mem_text type) (by decide)] at h
  cases type <;> exact absurd h.1 (by decide)

/-- The line declares no property, or that of a column. -/
def DeclaresOnly (columns : List ColumnModel) (line : String) : Prop :=
  NoProperty line ∨ ∃ c ∈ columns, propertyLine c.backend c.name = line

theorem declaresOnly_declarations :
    Step.AllLines (DeclaresOnly m.columns) ((properties m).flatMap Property.declaration) := by
  simp only [Property.declaration, Step.allLines_flatMap, properties, List.forall_mem_map,
    Step.allLines_lines_cons, Step.allLines_line_cons, Step.allLines_blank_cons,
    Step.allLines_nil, and_true]
  intro c hc
  refine ⟨fun a _ => .inl (noProperty_of_differs ?_), .inr ⟨c, hc, rfl⟩⟩
  exact Text.differs_append (Text.differs_append (Text.differs_ofList (by decide)) _) _

/-- Whatever property a line of the class declares, it is that of a column. -/
theorem declaresOnly_entity : Step.AllLines (DeclaresOnly m.columns) (entity m) := by
  have hclass : DeclaresOnly m.columns ("public class " ++ m.names.entity) :=
    .inl (noProperty_class m.names.entity)
  have hempty : ∀ front, DeclaresOnly m.columns (front ++ "() \x7b \x7d") := fun front =>
    .inl (noProperty_of_end (by decide) (by decide) front)
  have hparams : ∀ front, DeclaresOnly m.columns (front ++ ")") := fun front =>
    .inl (noProperty_of_end (by decide) (by decide) front)
  have hrow : ∀ front, DeclaresOnly m.columns (front ++ "(DataRow row)") := fun front =>
    .inl (noProperty_of_end (by decide) (by decide) front)
  have hshown : DeclaresOnly m.columns "public override string ToString()" := by
    have hsplit : ("public override string ToString()" : String) =
        "public override string ToString(" ++ ")" := by decide
    rw [hsplit]
    exact hparams _
  simp only [entity, declaresOnly_declarations, hclass, hempty, hparams, hrow, hshown,
    Step.allLines_braces_cons, Step.allLines_line_cons, Step.allLines_lines_cons,
    Step.allLines_blank_cons, Step.allLines_append, Step.allLines_nil, Step.allLines_map_line,
    List.forall_mem_cons, List.mem_ite_nil_right, List.mem_singleton, and_imp, true_and, and_true,
    toString]
  -- The lines that are left begin with something else than `public`.
  and_intros <;> intros <;> subst_vars <;> refine .inl (noProperty_of_differs ?_)
  all_goals repeat with_reducible apply Text.differs_append
  all_goals exact Text.differs_ofList (by decide)

theorem propertyLine_mem_entity {c : ColumnModel} (h : c ∈ m.columns) :
    propertyLine c.backend c.name ∈ Step.allTexts (entity m) := by
  have hdeclaration : propertyLine c.backend c.name ∈
      Step.allTexts ((properties m).flatMap Property.declaration) := by
    rw [Step.allTexts_flatMap, properties, List.flatMap_map]
    refine List.mem_flatMap.mpr ⟨c, h, ?_⟩
    simp only [Property.declaration, Step.allTexts_cons, Step.texts_line, List.mem_append]
    exact .inr (.inl (List.mem_singleton.mpr rfl))
  simp only [entity, Step.allTexts_append, Step.allTexts_cons, Step.texts_braces,
    List.mem_append, List.mem_cons, hdeclaration, true_or, or_true]

theorem declares_iff : Declares m name ↔ ∃ c ∈ m.columns, c.name = name := by
  constructor
  · rintro ⟨type, hline⟩
    obtain hnone | ⟨c, hc, heq⟩ := declaresOnly_entity _ hline
    · exact absurd rfl (hnone type name)
    · exact ⟨c, hc, name_of_propertyLine_eq heq⟩
  · rintro ⟨c, hc, rfl⟩
    exact ⟨c.backend, propertyLine_mem_entity hc⟩

end Scaffold.Backend
