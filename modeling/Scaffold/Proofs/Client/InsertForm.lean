import Scaffold.Client.Markup
import Scaffold.Proofs.Layout
import Scaffold.Proofs.Model
import Scaffold.Proofs.Schema.Key
import Scaffold.Proofs.Statement.Inserted

/-! The inputs of the insert form, against the columns that the insert statements write. -/
namespace Scaffold.Client.Markup

variable {t : Table} {database : String} {b : ParamBudget} {m : Model}

/-- The line that takes the value of a column. -/
def inputLine (m : Model) (readonly : Bool) (c : ColumnModel) : String :=
  let required := if c.input = .checkbox then "" else " required"
  let locked := if readonly then " readonly" else ""
  s!"<input type=\"{c.input.text}\" id=\"{c.name}\" name=\"{c.name}\" " ++
    s!"[(ngModel)]=\"{m.names.stem}.{c.field}\"{required}{locked}>"

/-- The tag of an input begins like that. No other tag of the form shares its first letter. -/
def isInput (line : String) : Bool := "<input ".toList.isPrefixOf line.toList

theorem isInput_append {s : String} (h : isInput s) (t : String) : isInput (s ++ t) := by
  unfold isInput at h ⊢
  rw [List.isPrefixOf_iff_prefix] at h ⊢
  rw [String.toList_append]
  exact h.trans (List.prefix_append _ _)

theorem isInput_inputLine (m : Model) (readonly : Bool) (c : ColumnModel) :
    isInput (inputLine m readonly c) := by
  unfold inputLine
  dsimp only
  repeat with_reducible apply isInput_append
  decide

theorem not_isInput {line : String} {c : Char} (h : line.toList[1]? = some c) (hc : c ≠ 'i') :
    isInput line = false := by
  rw [Bool.eq_false_iff]
  intro hinput
  obtain ⟨rest, hrest⟩ := List.isPrefixOf_iff_prefix.mp hinput
  rw [← hrest, String.toList_ofList] at h
  exact hc (Option.some.inj h).symm

theorem second_ofList {c d : Char} {cs : List Char} :
    (String.ofList (c :: d :: cs)).toList[1]? = some d := by
  rw [String.toList_ofList]
  rfl

theorem filter_input (m : Model) (readonly : Bool) (c : ColumnModel) :
    (Step.allTexts (input m readonly c)).filter isInput = [inputLine m readonly c] := by
  have htexts : Step.allTexts (input m readonly c) =
      ["<div>", s!"<label for=\"{c.name}\">{c.label}:</label>", inputLine m readonly c,
        "</div>"] := by
    simp only [input, Step.allTexts_within, Step.allTexts_cons, Step.allTexts_nil,
      Step.texts_line]
    rfl
  have hopen : isInput "<div>" = false := not_isInput second_ofList (by decide)
  have hlabel : isInput s!"<label for=\"{c.name}\">{c.label}:</label>" = false := by
    refine not_isInput ?_ (show 'l' ≠ 'i' by decide)
    repeat with_reducible apply Text.getElem?_append
    exact second_ofList
  have hclose : isInput "</div>" = false := not_isInput second_ofList (by decide)
  simp [htexts, hopen, hlabel, hclose, isInput_inputLine]

/-- The form has an input for each column that it asks for, in order, and no other. -/
theorem filter_insert (m : Model) :
    (Step.allTexts (insert m)).filter isInput = (insertInputs m).map (inputLine m false) := by
  have hinputs : (Step.allTexts ((insertInputs m).flatMap (input m false))).filter isInput =
      (insertInputs m).map (inputLine m false) := by
    rw [Step.allTexts_flatMap, List.filter_flatMap, List.map_eq_flatMap]
    simp only [filter_input]
  have hopen : isInput "<div class=\"insert-container\">" = false :=
    not_isInput second_ofList (by decide)
  have htitle : isInput ("<h2>Add New " ++ m.names.entity ++ "</h2>") = false :=
    not_isInput (Text.getElem?_append (Text.getElem?_append second_ofList _) _) (by decide)
  have hform : isInput "<form (ngSubmit)=\"onSubmit()\">" = false :=
    not_isInput second_ofList (by decide)
  have hbutton : isInput ("<button type=\"submit\">" ++ "Submit" ++ "</button>") = false :=
    not_isInput (Text.getElem?_append (Text.getElem?_append second_ofList _) _) (by decide)
  have hformClose : isInput "</form>" = false := not_isInput second_ofList (by decide)
  have hclose : isInput "</div>" = false := not_isInput second_ofList (by decide)
  simp only [insert, form, Step.allTexts_within, Step.allTexts_cons, Step.allTexts_append,
    Step.allTexts_nil, Step.texts_line, List.filter_append, List.filter_cons, List.filter_nil,
    toString, hopen, htitle, hform, hinputs, hbutton, hformClose, hclose, Bool.false_eq_true,
    if_false, List.nil_append, List.append_nil]

/-- Two selections that agree in the names of their columns agree column by column if one of them
goes by the name. -/
theorem map_filter_eq_iff {α β : Type} {p q : α → Bool} {f : α → β} {xs : List α}
    (hq : ∀ x y, f x = f y → q x = q y) :
    (xs.filter p).map f = (xs.filter q).map f ↔ ∀ x ∈ xs, p x = q x := by
  constructor
  · intro h
    have hpq : ∀ x ∈ xs, p x → q x := by
      intro x hx hp
      have hmem : f x ∈ (xs.filter q).map f :=
        h ▸ List.mem_map_of_mem (List.mem_filter.mpr ⟨hx, hp⟩)
      obtain ⟨y, hy, heq⟩ := List.mem_map.mp hmem
      rw [← hq y x heq]
      exact (List.mem_filter.mp hy).2
    have hnested : (xs.filter q).filter p = xs.filter p := by
      rw [List.filter_filter]
      refine List.filter_congr fun x hx => ?_
      cases hp : p x with
      | false => rfl
      | true => exact hpq x hx hp
    have hlength : ((xs.filter q).filter p).length = (xs.filter q).length := by
      rw [hnested, ← List.length_map (f := f), h, List.length_map]
    have hqp := List.length_filter_eq_length_iff.mp hlength
    intro x hx
    exact Bool.eq_iff_iff.mpr ⟨hpq x hx, fun hqx => hqp x (List.mem_filter.mpr ⟨hx, hqx⟩)⟩
  · intro h
    rw [List.filter_congr h]

/-- The columns for which the form has an input. -/
def askedColumns (m : Model) : List String := (insertInputs m).map (·.name)

theorem askedColumns_of_build (hm : Model.build t database b = .ok m) :
    askedColumns m = (t.columns.filter (!·.identity)).map (·.name) := by
  rw [askedColumns, insertInputs, Model.columns_of_build hm, List.filter_map, List.map_map]
  rfl

theorem columns_eq_askedColumns_iff (hm : Model.build t database b = .ok m) :
    m.statements.columns = askedColumns m ↔
      ∀ c ∈ t.columns, c.identity = m.key.excludes c.name := by
  have hname : ∀ c d : Column, c.name = d.name →
      (!m.key.excludes c.name) = !m.key.excludes d.name := by
    intro c d heq
    rw [heq]
  rw [askedColumns_of_build hm, Model.statements_of_build hm, Statements.columns_ofTable, eq_comm,
    map_filter_eq_iff hname]
  simp only [Bool.not_inj_iff]

/-- The insert form has an input for every column but the identity columns. The insert statements
write the columns of the form, in the same order, exactly if the identity columns are the ones with
the name of the key. -/
theorem insert_form_written_iff (hm : Model.build t database b = .ok m) :
    (Step.allTexts (insert m)).filter isInput = (insertInputs m).map (inputLine m false) ∧
      askedColumns m = (t.columns.filter (!·.identity)).map (·.name) ∧
      (m.statements.insert = (m.statements.writing (askedColumns m)).insert ↔
        ∀ c ∈ t.columns, c.identity = m.key.excludes c.name) ∧
      (m.statements.insertRowTemplate =
          (m.statements.writing (askedColumns m)).insertRowTemplate ↔
        ∀ c ∈ t.columns, c.identity = m.key.excludes c.name) := by
  rw [Statements.insert_eq_writing_iff, Statements.insertRowTemplate_eq_writing_iff]
  have hiff := columns_eq_askedColumns_iff hm
  exact ⟨filter_insert m, askedColumns_of_build hm, hiff, hiff⟩

/-- The identity column of users is their key, and the form asks for all others. -/
theorem user_form_written :
    ∃ m, Model.build Model.userTable "Main" {} = .ok m ∧
      m.statements.insert = (m.statements.writing (askedColumns m)).insert := by
  have hbuild := Model.build_userTable "Main" {}
  exact ⟨_, hbuild, (insert_form_written_iff hbuild).2.2.1.mpr (by decide +kernel)⟩

/-- Countries have a code for a key, which is no identity column. -/
def countryTable : Table :=
  { name := "Countries"
    columns := [⟨"Code", "varchar", true, false⟩, ⟨"Name", "nvarchar", false, false⟩] }

/-- The form asks for the code of a country, and the statement leaves it out. -/
theorem country_code_dropped :
    ∃ m, Model.build countryTable "Main" {} = .ok m ∧ askedColumns m = ["Code", "Name"] ∧
      m.statements.columns = ["Name"] ∧
      m.statements.insert ≠ (m.statements.writing (askedColumns m)).insert := by
  have hbuild : Model.build countryTable "Main" {} = .ok (Model.derived countryTable "Main" {}) :=
    Model.build_eq_ok_iff.mpr ⟨by decide, rfl⟩
  have hasked : askedColumns (Model.derived countryTable "Main" {}) = ["Code", "Name"] := by
    rw [askedColumns_of_build hbuild]
    decide
  have hwritten : (Model.derived countryTable "Main" {}).statements.columns = ["Name"] := by
    rw [Model.statements_of_build hbuild, Statements.columns_ofTable, Model.key_of_build hbuild]
    decide +kernel
  refine ⟨_, hbuild, hasked, hwritten, ?_⟩
  rw [Ne, Statements.insert_eq_writing_iff, hasked, hwritten]
  decide

end Scaffold.Client.Markup
