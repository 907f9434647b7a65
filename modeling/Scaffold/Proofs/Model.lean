import Scaffold.Model

/-! The model of an accepted table, part by part. -/
namespace Scaffold.Model

/-- All that a model holds once its table is known to have no fault. -/
def derived (t : Table) (defaultDatabase : String) (b : ParamBudget) : Model :=
  let k := Key.ofTable t
  let s := Statements.ofTable t k
  let database := databaseOf t defaultDatabase
  { names := .ofTable t database
    database
    key := k
    keyBackend := (keyTypes k).1
    keyClient := (keyTypes k).2
    columns := t.columns.map (.of k)
    statements := s
    budget := b
    warnings := keyWarnings t k ++ typeWarnings t ++ budgetWarnings t b s.counts }

variable {t : Table} {database : String} {b : ParamBudget} {m : Model}

theorem build_eq_ok_iff :
    build t database b = .ok m ↔ t.fault? = none ∧ derived t database b = m := by
  unfold build
  cases t.fault? with
  | some f => simp
  | none =>
    simp only [true_and]
    exact ⟨Except.ok.inj, congrArg Except.ok⟩

theorem key_of_build (h : build t database b = .ok m) : m.key = Key.ofTable t := by
  obtain ⟨-, rfl⟩ := build_eq_ok_iff.mp h
  rfl

theorem statements_of_build (h : build t database b = .ok m) :
    m.statements = Statements.ofTable t m.key := by
  obtain ⟨-, rfl⟩ := build_eq_ok_iff.mp h
  rfl

theorem budget_of_build (h : build t database b = .ok m) : m.budget = b := by
  obtain ⟨-, rfl⟩ := build_eq_ok_iff.mp h
  rfl

theorem columns_of_build (h : build t database b = .ok m) :
    m.columns = t.columns.map (.of m.key) := by
  obtain ⟨-, rfl⟩ := build_eq_ok_iff.mp h
  rfl

theorem keyTypes_of_build (h : build t database b = .ok m) :
    (m.keyBackend, m.keyClient) = keyTypes m.key := by
  obtain ⟨-, rfl⟩ := build_eq_ok_iff.mp h
  rfl

theorem warnings_of_build (h : build t database b = .ok m) :
    m.warnings =
      keyWarnings t m.key ++ typeWarnings t ++ budgetWarnings t b m.statements.counts := by
  obtain ⟨-, rfl⟩ := build_eq_ok_iff.mp h
  rfl

/-- Which warnings of an accepted table pass a filter is known from the filter on each kind. -/
theorem filter_warnings (h : build t database b = .ok m) (p : Warning → Bool) :
    m.warnings.filter p = (keyWarnings t m.key).filter p ++ (typeWarnings t).filter p ++
      (budgetWarnings t b m.statements.counts).filter p := by
  rw [warnings_of_build h, List.filter_append, List.filter_append]

theorem filter_keyWarnings_eq_nil {p : Warning → Bool}
    (hp : ∀ table key, p (.assumedKey table key) = false) (t : Table) (k : Key) :
    (keyWarnings t k).filter p = [] := by
  unfold keyWarnings
  split <;> simp [hp]

theorem filter_typeWarnings_eq_nil {p : Warning → Bool}
    (hp : ∀ table column sourceType, p (.unmappedType table column sourceType) = false)
    (t : Table) : (typeWarnings t).filter p = [] := by
  refine List.filter_eq_nil_iff.mpr fun w hw => ?_
  obtain ⟨c, -, rfl⟩ := List.mem_map.mp hw
  simp [hp]

theorem filter_budgetWarnings_eq_nil {p : Warning → Bool}
    (hp : ∀ table op v params budget, p (.budgetExceeded table op v params budget) = false)
    (t : Table) (b : ParamBudget) (n : ColumnCounts) : (budgetWarnings t b n).filter p = [] := by
  refine List.filter_eq_nil_iff.mpr fun w hw => ?_
  obtain ⟨v, -, hop⟩ := List.mem_flatMap.mp hw
  obtain ⟨op, -, hparams⟩ := List.mem_filterMap.mp hop
  obtain ⟨params, -, rfl⟩ := Option.map_eq_some_iff.mp hparams
  simp [hp]

/-- A table with a counted key and two written columns. -/
def userTable : Table :=
  { name := "Users"
    columns := [⟨"Id", "int", true, true⟩, ⟨"Name", "nvarchar", false, false⟩,
      ⟨"Email", "nvarchar", false, false⟩] }

theorem build_userTable (database : String) (b : ParamBudget) :
    build userTable database b = .ok (derived userTable database b) :=
  build_eq_ok_iff.mpr ⟨by decide, rfl⟩

end Scaffold.Model
