import Scaffold.Proofs.Text.Escaped

/-! What an insert statement names, read back from its text. -/
namespace Scaffold.Statements

/-- The same statements over other columns. -/
def writing (s : Statements) (columns : List String) : Statements := { s with columns }

/-- The clause that asks for the key of the new row. -/
def returned (s : Statements) (output : Bool) : String :=
  if output then " OUTPUT INSERTED." ++ s.quotedKey else ""

/-- What stands behind the table. -/
def insertEnd (s : Statements) (suffix : String) (output : Bool) : String :=
  if s.columns.isEmpty then s.returned output ++ " DEFAULT VALUES"
  else
    " (" ++ (s.columnList ++ (")" ++ (s.returned output ++
      (" VALUES (" ++ (s.valueList suffix ++ ")")))))

theorem insertWith_eq (s : Statements) (suffix : String) (output : Bool) :
    s.insertWith suffix output =
      "INSERT INTO " ++ (s.quotedTable ++ s.insertEnd suffix output) := by
  unfold insertWith insertEnd returned
  dsimp only
  split
  · simp only [String.append_assoc]
  · simp only [String.append_assoc]

variable {s t : Statements} {suffix : String} {output output' : Bool}

theorem returned_ne_of_output : s.returned true ≠ t.returned false := by
  intro h
  have hclause : " OUTPUT INSERTED." ++ quoteName s.key = "" := h
  simp at hclause

theorem returned_inj :
    s.returned output = t.returned output' ↔ output = output' ∧ (output → s.key = t.key) := by
  cases output with
  | false =>
    cases output' with
    | false => exact iff_of_true rfl ⟨rfl, fun h => absurd h (by decide)⟩
    | true => exact iff_of_false returned_ne_of_output.symm fun h => absurd h.1 (by decide)
  | true =>
    cases output' with
    | false => exact iff_of_false returned_ne_of_output fun h => absurd h.1 (by decide)
    | true =>
      have hclause : s.returned true = t.returned true ↔ s.quotedKey = t.quotedKey :=
        String.append_right_inj " OUTPUT INSERTED."
      rw [hclause]
      exact ⟨fun h => ⟨rfl, fun _ => quoteName_injective h⟩, fun h => congrArg quoteName (h.2 rfl)⟩

/-- Columns are told apart from their absence by the parenthesis that opens their list. -/
theorem insertEnd_ne_of_empty (hs : s.columns = []) (ht : t.columns ≠ []) :
    s.insertEnd suffix output ≠ t.insertEnd suffix output' := by
  intro h
  have hopen : (t.insertEnd suffix output').toList[1]? = some '(' := by
    simp [insertEnd, ht]
  have hother : (s.insertEnd suffix output).toList[1]? ≠ some '(' := by
    cases output <;> simp [insertEnd, returned, hs]
  rw [h] at hother
  exact hother hopen

theorem columnList_append_inj {r r' : String}
    (h : s.columnList ++ (")" ++ r) = t.columnList ++ (")" ++ r')) :
    s.columns = t.columns ∧ r = r' := by
  have hsep : ∀ a b : String, ")" ++ a ≠ "," ++ b := fun a b =>
    Text.append_ne_of_head (c := ')') (d := ',') (by simp) (by simp) (by decide) a b
  have hname : ∀ a name b : String, ")" ++ a ≠ quoteName name ++ b := fun a name b =>
    Text.append_ne_of_head (c := ')') (d := '[') (by simp) (by simp [quoteName]) (by decide) a b
  obtain ⟨hcolumns, hrest⟩ := Text.intercalate_append_inj readBack_quoteName (by simp) (by simp)
    (by simp) (hsep r) (hsep r') (hname r) (hname r') h
  exact ⟨hcolumns, (String.append_right_inj _).mp hrest⟩

theorem insertEnd_inj (h : s.insertEnd suffix output = t.insertEnd suffix output') :
    s.columns = t.columns ∧ s.returned output = t.returned output' := by
  by_cases hs : s.columns = []
  · by_cases ht : t.columns = []
    · simp only [insertEnd, hs, ht, List.isEmpty_nil, if_true] at h
      exact ⟨by rw [hs, ht], (String.append_left_inj _).mp h⟩
    · exact absurd h (insertEnd_ne_of_empty hs ht)
  · by_cases ht : t.columns = []
    · exact absurd h.symm (insertEnd_ne_of_empty ht hs)
    · simp only [insertEnd, List.isEmpty_iff, hs, ht, if_false] at h
      obtain ⟨hcolumns, hrest⟩ := columnList_append_inj ((String.append_right_inj _).mp h)
      -- One list of columns makes one list of values, so what is left is the clause.
      have hvalues : s.valueList suffix = t.valueList suffix := by
        rw [valueList, valueList, hcolumns]
      rw [hvalues] at hrest
      exact ⟨hcolumns, (String.append_left_inj _).mp hrest⟩

theorem head_insertEnd (s : Statements) (suffix : String) (output : Bool) :
    ']' ∉ (s.insertEnd suffix output).toList.head? := by
  unfold insertEnd returned
  split
  · cases output <;> simp
  · simp

/-- The text of an insert statement tells its table, its columns, whether it asks for the key and,
if it does, the key. -/
theorem insertWith_inj :
    s.insertWith suffix output = t.insertWith suffix output' ↔
      s.table = t.table ∧ s.columns = t.columns ∧ output = output' ∧
        (output → s.key = t.key) := by
  rw [insertWith_eq, insertWith_eq, String.append_right_inj, ← returned_inj]
  constructor
  · intro h
    obtain ⟨htable, hend⟩ := quoteName_append_inj (s.head_insertEnd suffix output)
      (t.head_insertEnd suffix output') h
    exact ⟨htable, insertEnd_inj hend⟩
  · rintro ⟨htable, hcolumns, hreturned⟩
    simp only [quotedTable, insertEnd, columnList, valueList, htable, hcolumns, hreturned]

theorem insertWith_writing_inj {xs ys : List String} :
    (s.writing xs).insertWith suffix output = (s.writing ys).insertWith suffix output ↔
      xs = ys := by
  rw [insertWith_inj]
  simp [writing]

theorem insert_eq_writing_iff (s : Statements) (columns : List String) :
    s.insert = (s.writing columns).insert ↔ s.columns = columns :=
  @insertWith_writing_inj s "" s.returnsKey s.columns columns

theorem insertRowTemplate_eq_writing_iff (s : Statements) (columns : List String) :
    s.insertRowTemplate = (s.writing columns).insertRowTemplate ↔ s.columns = columns := by
  rw [insertRowTemplate, insertRowTemplate, String.append_left_inj]
  exact @insertWith_writing_inj s rowMark false s.columns columns

end Scaffold.Statements
