import Scaffold.Proofs.Text.AsciiCase
import Scaffold.Statement.Template

/-! The key of a table and the columns that it leaves to be written. -/
namespace Scaffold

/-- The first column of the table that has the property. -/
def Table.IsFirst (t : Table) (p : Column → Prop) (c : Column) : Prop :=
  ∃ before after, t.columns = before ++ c :: after ∧ p c ∧ ∀ d ∈ before, ¬ p d

theorem Table.IsFirst.mem {t : Table} {p : Column → Prop} {c : Column} (h : t.IsFirst p c) :
    c ∈ t.columns := by
  obtain ⟨before, after, hcolumns, -, -⟩ := h
  rw [hcolumns]
  exact List.mem_append_right before List.mem_cons_self

theorem Table.IsFirst.holds {t : Table} {p : Column → Prop} {c : Column} (h : t.IsFirst p c) :
    p c := by
  obtain ⟨before, after, -, hc, -⟩ := h
  exact hc

theorem Table.find?_eq_some_iff {t : Table} {p : Column → Bool} {c : Column} :
    t.columns.find? p = some c ↔ t.IsFirst (p ·) c := by
  rw [List.find?_eq_some_iff_append, IsFirst]
  constructor
  · rintro ⟨hc, before, after, hcolumns, hbefore⟩
    exact ⟨before, after, hcolumns, hc, by simpa using hbefore⟩
  · rintro ⟨before, after, hcolumns, hc, hbefore⟩
    exact ⟨hc, before, after, hcolumns, by simpa using hbefore⟩

namespace Key

theorem excludes_name (k : Key) : k.excludes k.name := Text.eqIgnoringAsciiCase_self k.name

theorem excludes_congr {k : Key} {name other : String}
    (h : Text.eqIgnoringAsciiCase name other) : k.excludes name = k.excludes other := by
  rw [excludes, excludes, Text.eqIgnoringAsciiCase_comm, Text.eqIgnoringAsciiCase_congr h,
    Text.eqIgnoringAsciiCase_comm]

/-- What the key of a table may be. A flagged column is taken before one of the default name, and
an earlier column before a later one. -/
inductive Resolved (t : Table) : Key → Prop
  | flagged {c : Column} (hfirst : t.IsFirst (·.flaggedKey) c) :
      Resolved t ⟨c.name, false, c.identity, some c.sourceType⟩
  | named {c : Column} (hflags : ∀ d ∈ t.columns, ¬ d.flaggedKey)
      (hfirst : t.IsFirst (Text.eqIgnoringAsciiCase ·.name defaultName) c) :
      Resolved t ⟨c.name, true, c.identity, some c.sourceType⟩
  | made (hflags : ∀ d ∈ t.columns, ¬ d.flaggedKey)
      (hnames : ∀ d ∈ t.columns, ¬ Text.eqIgnoringAsciiCase d.name defaultName) :
      Resolved t ⟨defaultName, true, false, none⟩

theorem resolved_ofTable (t : Table) : Resolved t (ofTable t) := by
  unfold ofTable
  cases hflagged : t.flaggedKey? with
  | some c => exact .flagged (Table.find?_eq_some_iff.mp hflagged)
  | none =>
    have hflags : ∀ d ∈ t.columns, ¬ d.flaggedKey := List.find?_eq_none.mp hflagged
    cases hnamed : t.column? defaultName with
    | some c => exact .named hflags (Table.find?_eq_some_iff.mp hnamed)
    | none => exact .made hflags (List.find?_eq_none.mp hnamed)

/-- A table has one key only. -/
theorem resolved_iff {t : Table} {k : Key} : Resolved t k ↔ ofTable t = k := by
  refine ⟨fun h => ?_, fun h => h ▸ resolved_ofTable t⟩
  unfold ofTable
  cases h with
  | flagged hfirst =>
    have hflagged : t.flaggedKey? = some _ := Table.find?_eq_some_iff.mpr hfirst
    rw [hflagged]
  | named hflags hfirst =>
    have hflagged : t.flaggedKey? = none := List.find?_eq_none.mpr hflags
    have hnamed : t.column? defaultName = some _ := Table.find?_eq_some_iff.mpr hfirst
    rw [hflagged, hnamed]
  | made hflags hnames =>
    have hflagged : t.flaggedKey? = none := List.find?_eq_none.mpr hflags
    have hnamed : t.column? defaultName = none := List.find?_eq_none.mpr hnames
    rw [hflagged, hnamed]

theorem Resolved.assumed_iff {t : Table} {k : Key} (h : Resolved t k) :
    k.assumed ↔ ∀ c ∈ t.columns, ¬ c.flaggedKey := by
  cases h with
  | flagged hfirst => exact iff_of_false Bool.false_ne_true fun h => h _ hfirst.mem hfirst.holds
  | named hflags hfirst => exact iff_of_true rfl hflags
  | made hflags hnames => exact iff_of_true rfl hflags

/-- A key with a source type is a column, and the type is the column's. -/
theorem Resolved.exists_column {t : Table} {k : Key} (h : Resolved t k)
    (htype : k.sourceType.isSome) :
    ∃ c ∈ t.columns, c.name = k.name ∧ k.sourceType = some c.sourceType := by
  cases h with
  | flagged hfirst => exact ⟨_, hfirst.mem, rfl, rfl⟩
  | named hflags hfirst => exact ⟨_, hfirst.mem, rfl, rfl⟩
  | made hflags hnames => contradiction

/-- The key has a source type unless no column has its name, in any ASCII case. -/
theorem Resolved.isSome_sourceType_iff {t : Table} {k : Key} (h : Resolved t k) :
    k.sourceType.isSome ↔ ∃ c ∈ t.columns, k.excludes c.name := by
  constructor
  · intro htype
    obtain ⟨c, hc, hname, -⟩ := h.exists_column htype
    exact ⟨c, hc, hname ▸ k.excludes_name⟩
  · rintro ⟨c, hc, hexcluded⟩
    cases h with
    | flagged hfirst => rfl
    | named hflags hfirst => rfl
    | made hflags hnames =>
      rw [excludes, Text.eqIgnoringAsciiCase_comm] at hexcluded
      exact absurd hexcluded (hnames c hc)

/-- The key is called like a column or, where no column serves, by the default name. -/
theorem name_ofTable (t : Table) :
    (∃ c ∈ t.columns, (ofTable t).name = c.name) ∨ (ofTable t).name = defaultName := by
  have h := resolved_ofTable t
  generalize ofTable t = k at h
  cases h with
  | flagged hfirst => exact .inl ⟨_, hfirst.mem, rfl⟩
  | named hflags hfirst => exact .inl ⟨_, hfirst.mem, rfl⟩
  | made hflags hnames => exact .inr rfl

/-- The key is a column of the table unless its name had to be made up. -/
theorem isColumn_iff (t : Table) :
    (∃ c ∈ t.columns, c.name = (ofTable t).name) ↔
      ∃ c ∈ t.columns, c.flaggedKey ∨ Text.eqIgnoringAsciiCase c.name defaultName := by
  have h := resolved_ofTable t
  generalize ofTable t = k at h
  cases h with
  | flagged hfirst =>
    exact iff_of_true ⟨_, hfirst.mem, rfl⟩ ⟨_, hfirst.mem, .inl hfirst.holds⟩
  | named hflags hfirst =>
    exact iff_of_true ⟨_, hfirst.mem, rfl⟩ ⟨_, hfirst.mem, .inr hfirst.holds⟩
  | made hflags hnames =>
    refine iff_of_false ?_ ?_
    · rintro ⟨c, hc, hname⟩
      refine hnames c hc ?_
      rw [hname]
      exact Text.eqIgnoringAsciiCase_self defaultName
    · rintro ⟨c, hc, hflag | hname⟩
      · exact hflags c hc hflag
      · exact hnames c hc hname

end Key

namespace Statements

theorem columns_ofTable (t : Table) (k : Key) :
    (ofTable t k).columns = (t.columns.filter (!k.excludes ·.name)).map (·.name) := rfl

theorem mem_columns_ofTable {t : Table} {k : Key} {name : String} :
    name ∈ (ofTable t k).columns ↔ (∃ c ∈ t.columns, c.name = name) ∧ ¬ k.excludes name := by
  rw [columns_ofTable, List.mem_map]
  constructor
  · rintro ⟨c, hc, rfl⟩
    obtain ⟨hmem, hex⟩ := List.mem_filter.mp hc
    exact ⟨⟨c, hmem, rfl⟩, by simpa using hex⟩
  · rintro ⟨⟨c, hmem, rfl⟩, hex⟩
    exact ⟨c, List.mem_filter.mpr ⟨hmem, by simpa using hex⟩, rfl⟩

theorem key_not_mem_columns (t : Table) (k : Key) : k.name ∉ (ofTable t k).columns := fun h =>
  (mem_columns_ofTable.mp h).2 k.excludes_name

theorem nodup_columns_ofTable {t : Table} (k : Key)
    (h : t.columns.Pairwise fun c d => ¬ Text.eqIgnoringAsciiCase c.name d.name) :
    (ofTable t k).columns.Nodup := by
  rw [columns_ofTable, List.Nodup, List.pairwise_map]
  refine (h.filter _).imp fun {c d} hcd heq => hcd ?_
  rw [heq]
  exact Text.eqIgnoringAsciiCase_self d.name

/-- Statements may name only those columns alike that they leave out for the key. -/
theorem pairwise_columns_ofTable_iff (t : Table) (k : Key) :
    ((ofTable t k).columns.Pairwise fun name other => ¬ Text.eqIgnoringAsciiCase name other) ↔
      t.columns.Pairwise fun c d => Text.eqIgnoringAsciiCase c.name d.name → k.excludes c.name := by
  rw [columns_ofTable, List.pairwise_map, List.pairwise_filter]
  refine List.Pairwise.iff fun c d => ?_
  constructor
  · intro hwritten halike
    cases hc : k.excludes c.name with
    | true => rfl
    | false =>
      have hd : k.excludes d.name = false := by rw [← Key.excludes_congr halike, hc]
      exact absurd halike (hwritten (by simp [hc]) (by simp [hd]))
  · intro halike hc _ heq
    rw [halike heq] at hc
    contradiction

/-- The clamp of the counts never acts, as the written columns are among the declared ones. -/
theorem total_ofTable (t : Table) (k : Key) : (ofTable t k).counts.total = t.columns.length := by
  have hle : (ofTable t k).columns.length ≤ t.columns.length := by
    rw [columns_ofTable, List.length_map]
    exact List.length_filter_le _ _
  exact Nat.max_eq_left hle

theorem nonKey_lt_total_ofTable_iff (t : Table) (k : Key) :
    (ofTable t k).counts.nonKey < (ofTable t k).counts.total ↔
      ∃ c ∈ t.columns, k.excludes c.name := by
  have hnonKey : (ofTable t k).counts.nonKey =
      (t.columns.filter (!k.excludes ·.name)).length := List.length_map _
  rw [total_ofTable, hnonKey, List.length_filter_lt_length_iff_exists]
  simp

end Statements

end Scaffold
