import Scaffold.Proofs.Backend.Bindings
import Scaffold.Proofs.Text.Numbered
import Scaffold.Proofs.Text.Split

/-! The constants of the data-access class, read off its lines. -/
namespace Scaffold.Backend.Access

variable {m : Model} {op op' : Bulk} {v v' : Connection} {name text : String} {size : Nat}

/-- The line of a constant. -/
def constantLine (type name value : String) : String :=
  constantStart ++ (type ++ " " ++ (name ++ " " ++ ("= " ++ (value ++ ";"))))

/-- A line of the class gives that text to the constant. -/
def HasText (m : Model) (name text : String) : Prop :=
  s!"private const string {name} = {literal text};" ∈ Step.allTexts (access m)

/-- A line of the class gives that number to the constant. -/
def HasSize (m : Model) (name : String) (size : Nat) : Prop :=
  s!"private const int {name} = {size};" ∈ Step.allTexts (access m)

theorem textLine_eq (name text : String) :
    s!"private const string {name} = {literal text};" =
      constantLine "string" name (literal text) := by
  have hstart : ("private const string " : String) = constantStart ++ ("string" ++ " ") := by
    decide
  have hequals : (" = " : String) = " " ++ "= " := by decide
  rw [constantLine, hstart, hequals]
  simp only [toString, String.append_assoc]

theorem sizeLine_eq (name : String) (size : Nat) :
    s!"private const int {name} = {size};" = constantLine "int" name (toString size) := by
  have hstart : ("private const int " : String) = constantStart ++ ("int" ++ " ") := by decide
  have hequals : (" = " : String) = " " ++ "= " := by decide
  rw [constantLine, hstart, hequals]
  simp only [toString, String.append_assoc]

/-- The type and the name of a constant are words, so that its line is read in one way. -/
theorem constantLine_inj {type type' name' value value' : String}
    (htype : ' ' ∉ type.toList) (htype' : ' ' ∉ type'.toList) (hname : ' ' ∉ name.toList)
    (hname' : ' ' ∉ name'.toList)
    (h : constantLine type name value = constantLine type' name' value') :
    type = type' ∧ name = name' ∧ value = value' := by
  rw [constantLine, constantLine, String.append_right_inj,
    Text.append_sep_eq_iff_of_not_mem_left (by decide) htype htype',
    Text.append_sep_eq_iff_of_not_mem_left (by decide) hname hname', String.append_right_inj,
    String.append_left_inj] at h
  exact h

/-- Whatever begins like a constant declares one. -/
theorem mem_constants_of_starts {line : String} (h : line ∈ Step.allTexts (access m))
    (hstart : constantStart.toList <+: line.toList) : line ∈ Step.allTexts (constants m) := by
  obtain hplain | hconstant | ⟨b, -, p, rfl⟩ := accounted_access line h
  · exact absurd hstart (Text.not_starts_of_differs hplain.2)
  · exact hconstant
  · refine absurd hstart (Text.not_starts_of_differs ?_)
    rw [b.text_eq p]
    exact Text.differs_append (Text.differs_ofList (by decide)) _

theorem constants_subset_access : Step.allTexts (constants m) ⊆ Step.allTexts (access m) := by
  intro line hline
  simp only [access, Step.allTexts_append, Step.allTexts_cons, Step.texts_braces,
    List.mem_append, List.mem_cons, hline, true_or, or_true]

theorem constantLine_mem_iff {type value : String} :
    constantLine type name value ∈ Step.allTexts (access m) ↔
      (∃ q ∈ queries m.statements, constantLine "string" q.1 (literal q.2) =
        constantLine type name value) ∨
      ∃ c ∈ chunkSizes m, constantLine "int" c.1 (toString c.2) = constantLine type name value := by
  have hmem : constantLine type name value ∈ Step.allTexts (access m) ↔
      constantLine type name value ∈ Step.allTexts (constants m) := by
    exact ⟨fun h => mem_constants_of_starts h (Text.starts_self_append _ _),
      fun h => constants_subset_access h⟩
  rw [hmem]
  simp only [constants, Step.allTexts_cons, Step.texts_lines, Step.texts_blank, Step.allTexts_nil,
    textLine_eq, sizeLine_eq, List.mem_append, List.mem_map, List.nil_append, List.append_nil]

theorem queryNames (s : Statements) : (queries s).map (·.1) = ["GetQuery", "GetAllQuery",
    "GetMultipleQuery", "InsertQuery", "InsertRowTemplate", "UpdateQuery", "UpdateRowTemplate",
    "DeleteQuery", "DeleteMultipleQuery", "IdParamTemplate"] := rfl

theorem blank_not_mem_queryName {s : Statements} {q : String × String} (h : q ∈ queries s) :
    ' ' ∉ q.1.toList := by
  have hnames : ∀ name ∈ (queries s).map (·.1), ' ' ∉ name.toList := by
    rw [queryNames]
    decide +kernel
  exact hnames q.1 (List.mem_map_of_mem h)

theorem blank_not_mem_chunkConstant (op : Bulk) (v : Connection) :
    ' ' ∉ (chunkConstant op v).toList := by
  cases op <;> cases v <;> decide +kernel

theorem mem_chunkSizes_iff {c : String × Nat} :
    c ∈ chunkSizes m ↔ ∃ op v, c = (chunkConstant op v, m.chunkSize v op) := by
  constructor
  · intro hc
    obtain ⟨v, -, hv⟩ := List.mem_flatMap.mp hc
    obtain ⟨op, -, rfl⟩ := List.mem_map.mp hv
    exact ⟨op, v, rfl⟩
  · rintro ⟨op, v, rfl⟩
    refine List.mem_flatMap.mpr ⟨v, ?_, List.mem_map.mpr ⟨op, ?_, rfl⟩⟩
    · cases v <;> decide
    · cases op <;> decide

theorem chunkConstant_inj (h : chunkConstant op v = chunkConstant op' v') : op = op' ∧ v = v' := by
  cases op <;> cases v <;> cases op' <;> cases v' <;>
    first | exact ⟨rfl, rfl⟩ | exact absurd h (by decide +kernel)

/-- The text of a constant. -/
def query? (m : Model) (name : String) : Option String := (queries m.statements).lookup name

/-- No two constants have one name. -/
theorem query?_of_mem (h : (name, text) ∈ queries m.statements) : query? m name = some text := by
  simp only [queries, List.mem_cons, Prod.mk.injEq, List.not_mem_nil, or_false] at h
  obtain h | h | h | h | h | h | h | h | h | h := h <;>
    simp [query?, queries, List.lookup_cons, h.1, h.2]

theorem hasText_iff {text' : String} (h : (name, text) ∈ queries m.statements) :
    HasText m name text' ↔ text' = text := by
  have hword : ' ' ∉ name.toList := blank_not_mem_queryName h
  rw [HasText, textLine_eq, constantLine_mem_iff]
  constructor
  · rintro (⟨q, hq, heq⟩ | ⟨_, hsize, heq⟩)
    · obtain ⟨-, rfl, htext⟩ :=
        constantLine_inj (by decide) (by decide) (blank_not_mem_queryName hq) hword heq
      obtain ⟨rfl, -⟩ := literal_append_inj (congrArg (· ++ "") htext)
      exact Option.some.inj ((query?_of_mem hq).symm.trans (query?_of_mem h))
    · obtain ⟨op, v, rfl⟩ := mem_chunkSizes_iff.mp hsize
      obtain ⟨htype, -⟩ := constantLine_inj (by decide) (by decide)
        (blank_not_mem_chunkConstant op v) hword heq
      exact absurd htype (by decide)
  · rintro rfl
    exact .inl ⟨_, h, rfl⟩

theorem hasSize_iff : HasSize m (chunkConstant op v) size ↔ size = m.chunkSize v op := by
  have hword := blank_not_mem_chunkConstant op v
  rw [HasSize, sizeLine_eq, constantLine_mem_iff]
  constructor
  · rintro (⟨q, hq, heq⟩ | ⟨_, hsize, heq⟩)
    · obtain ⟨htype, -⟩ :=
        constantLine_inj (by decide) (by decide) (blank_not_mem_queryName hq) hword heq
      exact absurd htype (by decide)
    · obtain ⟨op', v', rfl⟩ := mem_chunkSizes_iff.mp hsize
      obtain ⟨-, hname, hvalue⟩ := constantLine_inj (by decide) (by decide)
        (blank_not_mem_chunkConstant op' v') hword heq
      obtain ⟨rfl, rfl⟩ := chunkConstant_inj hname
      exact (Text.toString_injective hvalue).symm
  · rintro rfl
    exact .inr ⟨_, mem_chunkSizes_iff.mpr ⟨op, v, rfl⟩, rfl⟩

end Scaffold.Backend.Access
