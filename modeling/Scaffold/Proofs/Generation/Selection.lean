import Scaffold.Proofs.Generation.Outcome
import Scaffold.Proofs.Text.Split
import Scaffold.Proofs.Text.Trim

/-! Which tables a run takes up when its filters are given as lists of names. -/
namespace Scaffold.Generation

variable {s : Settings} {ts : List Table} {names included excluded : List String} {name : String}

/-- A name that a list with commas can hold. -/
structure Listable (name : String) : Prop where
  nonempty : name ≠ ""
  no_comma : ',' ∉ name.toList
  trimmed : Text.trim name = name

theorem Listable.exists_nonblank (h : Listable name) :
    ∃ c ∈ name.toList, Text.isBlank c = false := by
  have hblank : Text.allBlank name = false := by
    rw [Bool.eq_false_iff]
    intro hall
    exact h.nonempty (h.trimmed.symm.trans (Text.trim_of_allBlank hall))
  obtain ⟨c, hc, hnot⟩ := List.all_eq_false.mp hblank
  exact ⟨c, hc, by simpa using hnot⟩

theorem listed_intercalate (h : ∀ n ∈ names, Listable n) (hne : names ≠ []) :
    listed (",".intercalate names) = names := by
  rw [listed, Text.splitAt_intercalate rfl hne fun n hn => (h n hn).no_comma]
  exact (List.map_congr_left fun n hn => (h n hn).trimmed).trans (List.map_id names)

/-- An empty list of names reads as one empty name, which does not count. -/
theorem listed_nonempty (h : ∀ n ∈ names, Listable n) :
    (listed (",".intercalate names)).filter (!·.isEmpty) = names := by
  by_cases hne : names = []
  · subst hne
    decide
  · rw [listed_intercalate h hne, List.filter_eq_self]
    intro n hn
    simpa using (h n hn).nonempty

theorem mem_intercalate {c : Char} {n : String} (hn : n ∈ names) (hc : c ∈ n.toList) :
    c ∈ (",".intercalate names).toList := by
  induction names with
  | nil => contradiction
  | cons first rest ih =>
    cases rest with
    | nil =>
      obtain rfl := List.mem_singleton.mp hn
      simpa using hc
    | cons second rest =>
      rw [String.intercalate_cons_cons, String.toList_append, String.toList_append,
        List.mem_append, List.mem_append]
      rcases List.mem_cons.mp hn with rfl | hn
      · exact .inl (.inl hc)
      · exact .inr (ih hn)

theorem trim_intercalate_ne_star (h : ∀ n ∈ names, Listable n) (hstar : names ≠ ["*"]) :
    Text.trim (",".intercalate names) ≠ "*" := by
  intro heq
  cases names with
  | nil => exact absurd heq (by decide +kernel)
  | cons first rest =>
    cases rest with
    | nil =>
      rw [String.intercalate_singleton, (h first List.mem_cons_self).trimmed] at heq
      exact hstar (by rw [heq])
    | cons second rest =>
      -- a comma is no blank, so it is still there after trimming
      have hcomma : ',' ∈ (",".intercalate (first :: second :: rest)).toList := by
        simp [String.intercalate_cons_cons]
      have hleft := Text.mem_trim hcomma (by decide)
      rw [heq] at hleft
      exact absurd hleft (by decide)

theorem includesAll_iff (h : ∀ n ∈ names, Listable n) (hstar : names ≠ ["*"]) :
    includesAll (",".intercalate names) ↔ names = [] := by
  have htrim := trim_intercalate_ne_star h hstar
  have hblank : Text.allBlank (",".intercalate names) ↔ names = [] := by
    constructor
    · intro hall
      by_contra hne
      obtain ⟨n, hn⟩ := List.exists_mem_of_ne_nil names hne
      obtain ⟨c, hc, hnot⟩ := (h n hn).exists_nonblank
      rw [Text.not_allBlank_of_mem (mem_intercalate hn hc) hnot] at hall
      exact absurd hall Bool.false_ne_true
    · rintro rfl
      decide
  simp [includesAll, htrim, hblank]

/-- Names are kept that are included, if any are, and not excluded. -/
def keeps (included excluded : List String) (name : String) : Bool :=
  (included = [] ∨ name ∈ included) ∧ name ∉ excluded

theorem selects_eq_keeps (hincluded : ∀ n ∈ included, Listable n) (hstar : included ≠ ["*"])
    (hexcluded : ∀ n ∈ excluded, Listable n) (name : String) :
    selects ((s.including included).excluding excluded) name = keeps included excluded name := by
  have hall := includesAll_iff hincluded hstar
  have hout : (listed (",".intercalate excluded)).filter (!·.isEmpty) = excluded :=
    listed_nonempty hexcluded
  unfold selects Settings.excluding Settings.including keeps
  dsimp only
  rw [hout, Bool.eq_iff_iff]
  by_cases hne : included = []
  · rw [hall.mpr hne]
    simp [hne]
  · simp [hne, hall, listed_intercalate hincluded hne]

/-- What is left out beforehand is left out of the map, and nothing else changes. -/
theorem generateWith_filter {parallel : Gatherer} (h : parallel.Ordered) {g : Generated}
    (p : String → Bool) (hg : generateWith parallel s ts = .ok g) :
    generateWith parallel s (ts.filter (p ·.name)) = .ok (g.filter (p ·.table)) := by
  obtain ⟨hr, hsound, rfl⟩ := (ok_iff h).mp hg
  refine (ok_iff h).mpr ⟨?_, fun t ht => hsound t (List.mem_of_mem_filter ht), ?_⟩
  · rw [not_repeats_iff] at hr ⊢
    exact hr.sublist (List.filter_sublist.map _)
  · have hmap : (ts.filter (p ·.name)).map (artifactsOf s) =
        (ts.map (artifactsOf s)).filter (p ·.table) := by
      rw [List.filter_map]
      refine congrArg _ (List.filter_congr fun t _ => ?_)
      rw [Function.comp_apply, table_artifactsOf]
    rw [hmap, Keyed.ofList_filter (nodup_tables s hr)]

/-- Filters given as lists of names keep exactly the named tables, which are the tables of the
result. They give what the kept tables give alone, which is what all of them give but for the
entries of the others, in whatever way the tables are generated. -/
theorem filters_keep_named (hincluded : ∀ n ∈ included, Listable n) (hstar : included ≠ ["*"])
    (hexcluded : ∀ n ∈ excluded, Listable n) (s : Settings) (ts : List Table) :
    let filtered := (s.including included).excluding excluded
    (∀ t : Table, selects filtered t.name ↔
      (included = [] ∨ t.name ∈ included) ∧ t.name ∉ excluded) ∧
    generateSelected filtered ts = generate s (ts.filter (keeps included excluded ·.name)) ∧
    (∀ (parallel : Gatherer) (g : Generated), parallel.Ordered →
      generateWith parallel filtered (ts.filter (selects filtered ·.name)) = .ok g →
      (g.map (·.table)).Perm ((ts.filter (keeps included excluded ·.name)).map (·.name))) ∧
    (∀ g, generate s ts = .ok g →
      generateSelected filtered ts = .ok (g.filter (keeps included excluded ·.table))) ∧
    ∀ (parallel : Gatherer) (g : Generated), parallel.Ordered → generateWith parallel s ts = .ok g →
      generateWith parallel filtered (ts.filter (selects filtered ·.name)) =
        .ok (g.filter (keeps included excluded ·.table)) := by
  intro filtered
  have hselects := selects_eq_keeps (s := s) hincluded hstar hexcluded
  have hkept : ts.filter (selects filtered ·.name) =
      ts.filter (keeps included excluded ·.name) :=
    List.filter_congr fun t _ => hselects t.name
  -- beyond the selection the filters play no part
  have hsame : ∀ (parallel : Gatherer) (us : List Table),
      generateWith parallel filtered us = generateWith parallel s us := fun _ _ => rfl
  have hrestricted : ∀ (parallel : Gatherer) (g : Generated), parallel.Ordered →
      generateWith parallel s ts = .ok g →
      generateWith parallel filtered (ts.filter (selects filtered ·.name)) =
        .ok (g.filter (keeps included excluded ·.table)) := by
    intro parallel g h hg
    rw [hkept, hsame]
    exact generateWith_filter h _ hg
  refine ⟨fun t => ?_, ?_, fun parallel g h hg => ?_,
    fun g hg => hrestricted inOrder g ordered_inOrder hg, hrestricted⟩
  · rw [hselects, keeps, decide_eq_true_eq]
  · rw [generateSelected, hkept, generate, hsame, generate]
  · rw [hkept] at hg
    exact (entries_of_ok h hg).2.1

def orderTable : Table := { Model.userTable with name := "Orders" }

theorem listable_users : Listable "Users" := ⟨by decide, by decide, by decide +kernel⟩

theorem listable_orders : Listable "Orders" := ⟨by decide, by decide, by decide +kernel⟩

/-- Of two tables, both included, one is excluded. -/
theorem users_kept_alone :
    ∃ g, generate {} [Model.userTable, orderTable] = .ok g ∧
      generateSelected ((({} : Settings).including ["Users", "Orders"]).excluding ["Orders"])
        [Model.userTable, orderTable] =
          .ok (g.filter (keeps ["Users", "Orders"] ["Orders"] ·.table)) ∧
      (g.filter (keeps ["Users", "Orders"] ["Orders"] ·.table)).map (·.table) = ["Users"] ∧
      keeps ["Users", "Orders"] ["Orders"] "Users" ∧
      keeps ["Users", "Orders"] ["Orders"] "Orders" = false := by
  have hstems : (stems [Model.userTable, orderTable]).Nodup := by decide +kernel
  have hsound : ∀ t ∈ [Model.userTable, orderTable], t.fault? = none := by decide +kernel
  have hg := (ok_iff ordered_inOrder (s := {})).mpr ⟨not_repeats_iff.mpr hstems, hsound, rfl⟩
  have hincluded : ∀ n ∈ ["Users", "Orders"], Listable n := by
    simp [listable_users, listable_orders]
  have hexcluded : ∀ n ∈ ["Orders"], Listable n := by
    simp [listable_orders]
  obtain ⟨-, -, htables, hrestricted, -⟩ := filters_keep_named hincluded (by decide) hexcluded {}
    [Model.userTable, orderTable]
  have hresult := hrestricted _ hg
  have hkept := htables inOrder _ ordered_inOrder hresult
  have hnames : ([Model.userTable, orderTable].filter
      (keeps ["Users", "Orders"] ["Orders"] ·.name)).map (·.name) = ["Users"] := by decide
  rw [hnames, List.perm_singleton] at hkept
  exact ⟨_, hg, hresult, hkept, by decide, by decide⟩

end Scaffold.Generation
