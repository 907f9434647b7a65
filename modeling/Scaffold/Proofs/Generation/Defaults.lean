import Scaffold.Proofs.Generation.Outcome
import Scaffold.Schema.Source

/-! Where a table of a schema document takes its database and its namespace from. -/
namespace Scaffold.Generation

open SchemaDocument (fill)

variable {s : Settings} {t : Table} {ts : List Table} {own document : Option String}
  {setting value : String}

/-- The first value that is there and not blank. -/
def firstFilled (values : List (Option String)) : Option String :=
  values.findSome? (·.filter (!Text.allBlank ·))

theorem firstFilled_absent (values : List (Option String)) :
    firstFilled (none :: values) = firstFilled values := rfl

theorem firstFilled_blank (h : Text.allBlank value) (values : List (Option String)) :
    firstFilled (some value :: values) = firstFilled values := by
  simp [firstFilled, Option.filter, h]

theorem firstFilled_filled (h : Text.allBlank value = false) (values : List (Option String)) :
    firstFilled (some value :: values) = some value := by
  simp [firstFilled, Option.filter, h]

/-- A value that is there but blank hides the document's, which is neither blank nor the setting. -/
def Hides (own document : Option String) (setting : String) : Prop :=
  ∃ v d, own = some v ∧ Text.allBlank v ∧ document = some d ∧ Text.allBlank d = false ∧ d ≠ setting

/-- The document's value stands in for an absent one, and the setting for a blank one. -/
def inherited (own document : Option String) (setting : String) : String :=
  match own <|> document with
  | some v => if Text.allBlank v then setting else v
  | none => setting

theorem inherited_of_hides (h : Hides own document setting) :
    inherited own document setting = setting := by
  obtain ⟨v, d, rfl, hv, -⟩ := h
  exact if_pos hv

/-- Values are used in their order of precedence as long as none is hidden. -/
theorem inherited_eq_firstFilled_iff (h : Text.allBlank setting = false) :
    some (inherited own document setting) = firstFilled [own, document, some setting] ↔
      ¬ Hides own document setting := by
  have hsetting := firstFilled_filled h []
  cases own with
  | none =>
    refine iff_of_true ?_ (by simp [Hides])
    rw [firstFilled_absent]
    cases document with
    | none => exact hsetting.symm
    | some d =>
      change some (if Text.allBlank d then setting else d) = _
      cases hd : Text.allBlank d with
      | true => rw [firstFilled_blank hd, hsetting, if_pos rfl]
      | false => rw [firstFilled_filled hd, if_neg Bool.false_ne_true]
  | some v =>
    change some (if Text.allBlank v then setting else v) = _ ↔ _
    cases hv : Text.allBlank v with
    | false =>
      refine iff_of_true ?_ (by simp [Hides, hv])
      rw [firstFilled_filled hv, if_neg Bool.false_ne_true]
    | true =>
      rw [firstFilled_blank hv, if_pos rfl]
      cases document with
      | none => exact iff_of_true hsetting.symm (by simp [Hides])
      | some d =>
        cases hd : Text.allBlank d with
        | true =>
          refine iff_of_true ?_ (by simp [Hides, hd])
          rw [firstFilled_blank hd, hsetting]
        | false =>
          rw [firstFilled_filled hd, Option.some.injEq]
          constructor
          · rintro rfl ⟨_, d', -, -, hd', -, hne⟩
            exact hne (Option.some.inj hd').symm
          · intro hnot
            by_contra hne
            exact hnot ⟨v, d, rfl, hv, rfl, hd, Ne.symm hne⟩

/-- Accepted settings leave neither value blank. -/
theorem filled_of_fault?_eq_none {present : Bool} (h : s.fault? present = none) :
    Text.allBlank s.rootNamespace = false ∧ Text.allBlank s.database = false := by
  unfold Settings.fault? at h
  repeat' split at h
  all_goals first | contradiction | simp_all

theorem databaseOf_fill (s : Settings) (rootNamespace document : Option String) (t : Table) :
    Model.databaseOf (qualified s (fill rootNamespace document t)) s.database =
      inherited t.database document s.database := by
  have hkeep : (qualified s (fill rootNamespace document t)).database = (t.database <|> document) := by
    unfold qualified
    split <;> rfl
  rw [Model.databaseOf, hkeep]
  rfl

theorem rootNamespace_qualified (s : Settings) (t : Table) :
    (qualified s t).rootNamespace =
      if Text.allBlank t.rootNamespace then s.rootNamespace else t.rootNamespace := by
  unfold qualified
  split <;> rfl

/-- An empty namespace counts as absent. -/
def ownNamespace (t : Table) : Option String :=
  if t.rootNamespace = "" then none else some t.rootNamespace

theorem rootNamespace_fill (s : Settings) (document database : Option String) (t : Table) :
    (qualified s (fill document database t)).rootNamespace =
      inherited (ownNamespace t) document s.rootNamespace := by
  have hfill : (fill document database t).rootNamespace =
      if t.rootNamespace = "" then document.getD t.rootNamespace else t.rootNamespace := by
    simp [fill]
  rw [rootNamespace_qualified, hfill, ownNamespace]
  by_cases hempty : t.rootNamespace = ""
  · simp only [if_pos hempty]
    rw [hempty]
    cases document <;> rfl
  · simp only [if_neg hempty]
    rfl

/-- Nothing else of the table's names depends on the defaults. -/
theorem names_fill (s : Settings) (document database : Option String) (t : Table) (name : String) :
    Names.ofTable (qualified s (fill document database t)) name =
      .ofTable { t with rootNamespace := inherited (ownNamespace t) document s.rootNamespace }
        name := by
  rw [← rootNamespace_fill s document database]
  unfold qualified
  split <;> rfl

theorem firstFilled_ownNamespace (t : Table) (values : List (Option String)) :
    firstFilled (ownNamespace t :: values) = firstFilled (some t.rootNamespace :: values) := by
  unfold ownNamespace
  by_cases hempty : t.rootNamespace = ""
  · rw [if_pos hempty, hempty, firstFilled_absent, firstFilled_blank rfl]
  · rw [if_neg hempty]

/-- The database and the namespaces of a table in a document. Each of them is the first value that is
not blank, of the table, the document and the settings, exactly if the table does not hide the
document's value behind a blank one; if it does, the settings' value is used. -/
theorem defaults_precede_iff {text : String} {rootNamespace database : Option String}
    {present : Bool} (hs : s.fault? present = none)
    (hparse : SchemaDocument.parse text = .ok (.document rootNamespace database ts)) :
    SchemaFormat.json.tables text = .ok (ts.map (fill rootNamespace database)) ∧
    ∀ t ∈ ts, ∀ m, model s (fill rootNamespace database t) = .ok m →
      (some m.database = firstFilled [t.database, database, some s.database] ↔
        ¬ Hides t.database database s.database) ∧
      (Hides t.database database s.database → m.database = s.database) ∧
      ∃ root, m.names = .ofTable { t with rootNamespace := root } m.database ∧
        (some root = firstFilled [some t.rootNamespace, rootNamespace, some s.rootNamespace] ↔
          ¬ Hides (ownNamespace t) rootNamespace s.rootNamespace) ∧
        (Hides (ownNamespace t) rootNamespace s.rootNamespace → root = s.rootNamespace) := by
  obtain ⟨hnamespace, hdatabase⟩ := filled_of_fault?_eq_none hs
  refine ⟨by rw [SchemaFormat.tables, hparse]; rfl, fun t _ m hm => ?_⟩
  obtain ⟨-, rfl⟩ := Model.build_eq_ok_iff.mp hm
  have hused : (Model.derived (qualified s (fill rootNamespace database t)) s.database
      s.budget).database = inherited t.database database s.database := databaseOf_fill ..
  rw [hused]
  refine ⟨inherited_eq_firstFilled_iff hdatabase, inherited_of_hides,
    inherited (ownNamespace t) rootNamespace s.rootNamespace, ?_, ?_, inherited_of_hides⟩
  · rw [← names_fill s rootNamespace database t, ← databaseOf_fill s rootNamespace database t]
    rfl
  · rw [← firstFilled_ownNamespace]
    exact inherited_eq_firstFilled_iff hnamespace

/-- A document with both defaults and one table. -/
def documentText (fields : String) : String :=
  "\x7b\"namespace\":\"Contoso\",\"database\":\"Shop\",\"tables\":[\x7b" ++ fields ++
    "\"name\":\"Users\",\"columns\":[\x7b\"name\":\"Id\",\"source_type\":\"int\"\x7d]\x7d]\x7d"

def plainTable : Table := { name := "Users", columns := [{ name := "Id", sourceType := "int" }] }

def blankTable : Table := { plainTable with rootNamespace := " ", database := some "" }

deriving instance DecidableEq for SchemaDocument

theorem parse_plainTable :
    SchemaDocument.parse (documentText "") =
      .ok (.document (some "Contoso") (some "Shop") [plainTable]) := by
  decide +kernel

theorem parse_blankTable :
    SchemaDocument.parse (documentText "\"namespace\":\" \",\"database\":\"\",") =
      .ok (.document (some "Contoso") (some "Shop") [blankTable]) := by
  decide +kernel

theorem settings_accepted : (Settings.ofSchemaFile "schema.json").fault? true = none := by
  decide

/-- A table without values of its own takes both of the document's. -/
theorem document_defaults_taken :
    ∃ m, model (.ofSchemaFile "schema.json") (fill (some "Contoso") (some "Shop") plainTable) =
        .ok m ∧
      m.database = "Shop" ∧
      m.names = .ofTable { plainTable with rootNamespace := "Contoso" } "Shop" := by
  have hm : model (.ofSchemaFile "schema.json")
      (fill (some "Contoso") (some "Shop") plainTable) = .ok _ :=
    Model.build_eq_ok_iff.mpr ⟨by decide +kernel, rfl⟩
  obtain ⟨-, hdefaults⟩ := defaults_precede_iff settings_accepted parse_plainTable
  obtain ⟨hdatabase, -, root, hnames, hroot, -⟩ :=
    hdefaults plainTable (List.mem_singleton.mpr rfl) _ hm
  have hplain : ∀ {document setting : String}, ¬ Hides none (some document) setting := by
    simp [Hides]
  have hshop : _ = "Shop" := Option.some.inj (hdatabase.mpr hplain)
  have hcontoso : root = "Contoso" := Option.some.inj (hroot.mpr hplain)
  exact ⟨_, hm, hshop, by rw [hnames, hcontoso, hshop]⟩

/-- Blank values give way to the settings, although the document has values of its own. -/
theorem blank_values_hide_document :
    (Settings.ofSchemaFile "schema.json").fault? true = none ∧
    SchemaFormat.json.tables (documentText "\"namespace\":\" \",\"database\":\"\",") =
      .ok [fill (some "Contoso") (some "Shop") blankTable] ∧
    ∃ m, model (.ofSchemaFile "schema.json") (fill (some "Contoso") (some "Shop") blankTable) =
        .ok m ∧
      m.database = "Main" ∧
      firstFilled [blankTable.database, some "Shop", some "Main"] = some "Shop" ∧
      m.names.configNamespace = "Modelly.Database.Access" ∧
      firstFilled [some blankTable.rootNamespace, some "Contoso", some "Modelly"] =
        some "Contoso" := by
  refine ⟨settings_accepted, by rw [SchemaFormat.tables, parse_blankTable]; rfl, _,
    Model.build_eq_ok_iff.mpr ⟨by decide +kernel, rfl⟩, ?_⟩
  decide +kernel

end Scaffold.Generation
