import Scaffold.Proofs.Statement.Inserted

/-! What an update statement names, read back from its text. -/
namespace Scaffold.Statements

/-- A column is set to its parameter. The name in brackets tells how far the parameter, which is
written as it is, will go. -/
def assignment (suffix column : String) : String := quoteName column ++ " = " ++ param column suffix

/-- What stands behind the assignments. -/
def updateEnd (s : Statements) (suffix : String) : String :=
  " WHERE " ++ (s.quotedKey ++ (" = " ++ param s.key suffix))

theorem updateWith_eq (s : Statements) (suffix : String) :
    s.updateWith suffix = "UPDATE " ++ (s.quotedTable ++ (" SET " ++
      (", ".intercalate (s.columns.map (assignment suffix)) ++ s.updateEnd suffix))) := by
  have hset : s.setList suffix = ", ".intercalate (s.columns.map (assignment suffix)) := rfl
  simp only [updateWith, hset, updateEnd, String.append_assoc]

theorem readBack_assignment (suffix : String) :
    Text.ReadBack (assignment suffix) fun _ => True := by
  intro x y r s _ _ h
  simp only [assignment, String.append_assoc] at h
  obtain ⟨rfl, hrest⟩ := quoteName_append_inj (by simp) (by simp) h
  exact ⟨rfl, by simpa using hrest⟩

variable {s t : Statements} {suffix : String}

theorem updateEnd_inj (h : s.updateEnd suffix = t.updateEnd suffix) : s.key = t.key :=
  (quoteName_append_inj (by simp) (by simp) ((String.append_right_inj _).mp h)).1

/-- The condition is no further assignment, nor the first one where there are no columns. -/
theorem assignments_append_updateEnd_inj
    (h : ", ".intercalate (s.columns.map (assignment suffix)) ++ s.updateEnd suffix =
      ", ".intercalate (t.columns.map (assignment suffix)) ++ t.updateEnd suffix) :
    s.columns = t.columns ∧ s.updateEnd suffix = t.updateEnd suffix := by
  have hsep : ∀ (s : Statements) (b : String), s.updateEnd suffix ≠ ", " ++ b := fun s b =>
    Text.append_ne_of_head (c := ' ') (d := ',') (by simp) (by simp) (by decide) _ b
  have hitem : ∀ (s : Statements) (c b : String),
      s.updateEnd suffix ≠ assignment suffix c ++ b := fun s c b =>
    Text.append_ne_of_head (c := ' ') (d := '[') (by simp) (by simp [assignment, quoteName])
      (by decide) _ b
  exact Text.intercalate_append_inj (readBack_assignment suffix) (fun _ => trivial) trivial trivial
    (hsep s) (hsep t) (hitem s) (hitem t) h

/-- The text of an update tells its table, its columns in order and its key. -/
theorem updateWith_inj :
    s.updateWith suffix = t.updateWith suffix ↔
      s.table = t.table ∧ s.columns = t.columns ∧ s.key = t.key := by
  rw [updateWith_eq, updateWith_eq, String.append_right_inj]
  constructor
  · intro h
    obtain ⟨htable, hset⟩ := quoteName_append_inj (by simp) (by simp) h
    obtain ⟨hcolumns, hend⟩ :=
      assignments_append_updateEnd_inj ((String.append_right_inj _).mp hset)
    exact ⟨htable, hcolumns, updateEnd_inj hend⟩
  · rintro ⟨htable, hcolumns, hkey⟩
    simp only [quotedTable, updateEnd, quotedKey, htable, hcolumns, hkey]

/-- Two updates have one text exactly if they name one table, one key and the same columns in one
order. Two inserts do exactly if they name one table and the same columns in one order, and either
neither returns its key or both return one key. The names may hold any characters. -/
theorem single_row_texts_eq_iff (s t : Statements) :
    (s.update = t.update ↔ s.table = t.table ∧ s.columns = t.columns ∧ s.key = t.key) ∧
    (s.insert = t.insert ↔ s.table = t.table ∧ s.columns = t.columns ∧
      s.returnsKey = t.returnsKey ∧ (s.returnsKey → s.key = t.key)) :=
  ⟨updateWith_inj, insertWith_inj⟩

end Scaffold.Statements
