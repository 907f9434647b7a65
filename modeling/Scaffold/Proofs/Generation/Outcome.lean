import Scaffold.Generation
import Scaffold.Proofs.Keyed
import Scaffold.Proofs.Model

/-! What generation gives: an error of one of two kinds, or an entry for each table. -/
namespace Scaffold

/-- What an error is about, without its particulars. -/
inductive ErrorKind
  | table
  | schemaText
  | settings
  | run
  | file
deriving DecidableEq

def Error.kind : Error → ErrorKind
  | table _ => .table
  | schemaText _ => .schemaText
  | settings _ => .settings
  | run _ => .run
  | file => .file

namespace Generation

variable {s : Settings} {ts us : List Table} {t : Table}

/-- The names of the tables in lower case. -/
def stems (ts : List Table) : List String := ts.map fun t => Text.lower t.name

/-- Two tables at different positions have one name in lower case. -/
def Repeats (ts : List Table) : Prop :=
  ∃ (i j : Nat) (t u : Table), i < j ∧ ts[i]? = some t ∧ ts[j]? = some u ∧
    Text.lower t.name = Text.lower u.name

theorem stems_perm (h : us.Perm ts) : (stems us).Perm (stems ts) := by
  unfold stems
  exact h.map _

theorem not_repeats_iff : ¬ Repeats ts ↔ (stems ts).Nodup := by
  rw [stems, List.Nodup, List.pairwise_map, List.pairwise_iff_getElem]
  constructor
  · intro h i j hi hj hij heq
    exact h ⟨i, j, ts[i], ts[j], hij, List.getElem?_eq_getElem hi, List.getElem?_eq_getElem hj, heq⟩
  · rintro h ⟨i, j, t, u, hij, ht, hu, heq⟩
    obtain ⟨hi, rfl⟩ := List.getElem?_eq_some_iff.mp ht
    obtain ⟨hj, rfl⟩ := List.getElem?_eq_some_iff.mp hu
    exact h i j hi hj hij heq

theorem duplicate?_eq_none_iff {seen : List String} :
    duplicate? seen ts = none ↔ (stems ts).Nodup ∧ ∀ stem ∈ stems ts, stem ∉ seen := by
  induction ts generalizing seen with
  | nil => simp [duplicate?, stems]
  | cons t rest ih =>
    have hstems : stems (t :: rest) = Text.lower t.name :: stems rest := rfl
    rw [duplicate?, hstems, List.nodup_cons, List.forall_mem_cons]
    by_cases hseen : Text.lower t.name ∈ seen
    · simp [hseen]
    · rw [if_neg (by simpa using hseen), ih]
      grind

theorem duplicate?_isSome_iff : (∃ name, duplicate? [] ts = some name) ↔ Repeats ts := by
  rw [← Option.isSome_iff_exists, ← not_iff_not, not_repeats_iff, Option.not_isSome_iff_eq_none,
    duplicate?_eq_none_iff]
  simp

theorem fault?_qualified (s : Settings) (t : Table) : (qualified s t).fault? = t.fault? := by
  unfold qualified
  split <;> rfl

theorem name_qualified (s : Settings) (t : Table) : (qualified s t).name = t.name := by
  unfold qualified
  split <;> rfl

theorem ofTable_of_fault {f : TableFault} (h : t.fault? = some f) : ofTable s t = .error f := by
  unfold ofTable model Model.build
  rw [fault?_qualified, h]
  rfl

/-- The model of a table without a fault. -/
def modelOf (s : Settings) (t : Table) : Model :=
  .derived (qualified s t) s.database s.budget

theorem model_of_sound (h : t.fault? = none) : model s t = .ok (modelOf s t) :=
  Model.build_eq_ok_iff.mpr ⟨(fault?_qualified s t).trans h, rfl⟩

/-- The artifacts of a table without a fault. -/
def artifactsOf (s : Settings) (t : Table) : TableArtifacts :=
  .ofModel (modelOf s t) s.backend s.client

theorem ofTable_of_sound (h : t.fault? = none) : ofTable s t = .ok (artifactsOf s t) := by
  rw [ofTable, model_of_sound h]
  rfl

theorem names_modelOf (s : Settings) (t : Table) :
    (modelOf s t).names =
      .ofTable (qualified s t) (Model.databaseOf (qualified s t) s.database) := rfl

theorem table_artifactsOf (s : Settings) (t : Table) : (artifactsOf s t).table = t.name :=
  name_qualified s t

/-- Results are kept in order. Where there is a fault, one of the faults comes out. -/
structure Gatherer.Ordered (gather : Gatherer) : Prop where
  all_ok : ∀ all, gather (all.map .ok) = .ok all
  some_error : ∀ results f, .error f ∈ results → ∃ f', .error f' ∈ results ∧
    gather results = .error f'

theorem ordered_inOrder : Gatherer.Ordered inOrder where
  all_ok all := by
    unfold inOrder
    induction all with
    | nil => rfl
    | cons a rest ih => rw [List.map_cons, List.mapM_cons, ih]; rfl
  some_error results f h := by
    unfold inOrder
    induction results with
    | nil => contradiction
    | cons r rest ih =>
      rw [List.mapM_cons]
      cases r with
      | error e => exact ⟨e, List.mem_cons_self, rfl⟩
      | ok a =>
        have hrest : .error f ∈ rest := by simpa using h
        obtain ⟨f', hmem, hf'⟩ := ih hrest
        exact ⟨f', List.mem_cons_of_mem _ hmem, by rw [hf']; rfl⟩

theorem Gatherer.Ordered.choice {parallel : Gatherer} (h : parallel.Ordered) (s : Settings) :
    Gatherer.Ordered (if s.parallel then parallel else inOrder) := by
  split
  · exact h
  · exact ordered_inOrder

theorem map_ofTable (h : ∀ t ∈ ts, t.fault? = none) :
    ts.map (ofTable s) = (ts.map (artifactsOf s)).map .ok := by
  rw [List.map_map]
  exact List.map_congr_left fun t ht => ofTable_of_sound (h t ht)

theorem map_model (h : ∀ t ∈ ts, t.fault? = none) :
    ts.map (model s) = (ts.map (modelOf s)).map .ok := by
  rw [List.map_map]
  exact List.map_congr_left fun t ht => model_of_sound (h t ht)

theorem tables_artifactsOf (s : Settings) (ts : List Table) :
    (ts.map (artifactsOf s)).map (·.table) = ts.map (·.name) := by
  rw [List.map_map]
  exact List.map_congr_left fun t _ => table_artifactsOf s t

theorem nodup_tables (s : Settings) (h : ¬ Repeats ts) :
    ((ts.map (artifactsOf s)).map (·.table)).Nodup := by
  have hstems : (ts.map fun t => Text.lower t.name).Nodup := not_repeats_iff.mp h
  have hlower : ((ts.map (·.name)).map Text.lower).Nodup := by rwa [List.map_map]
  rw [tables_artifactsOf]
  exact hlower.of_map

/-- Repeated names come first, then the faults of tables; otherwise there is a map. -/
theorem generateWith_cases {parallel : Gatherer} (h : parallel.Ordered) (s : Settings)
    (ts : List Table) :
    (Repeats ts ∧ ∃ f, generateWith parallel s ts = .error (.run f)) ∨
    (¬ Repeats ts ∧ ∃ t ∈ ts, ∃ f, t.fault? = some f ∧
      generateWith parallel s ts = .error (.table f)) ∨
    (¬ Repeats ts ∧ (∀ t ∈ ts, t.fault? = none) ∧
      generateWith parallel s ts =
        .ok (Keyed.ofList TableArtifacts.table (ts.map (artifactsOf s)))) := by
  unfold generateWith
  by_cases hrepeats : Repeats ts
  · obtain ⟨name, hname⟩ := duplicate?_isSome_iff.mpr hrepeats
    rw [hname]
    exact .inl ⟨hrepeats, _, rfl⟩
  have hnone : duplicate? [] ts = none := by
    rw [← Option.not_isSome_iff_eq_none, Option.isSome_iff_exists, duplicate?_isSome_iff]
    exact hrepeats
  rw [hnone]
  right
  by_cases hfault : ∃ t ∈ ts, ∃ f, t.fault? = some f
  · obtain ⟨t, ht, f, hf⟩ := hfault
    have hmem : .error f ∈ ts.map (ofTable s) := List.mem_map.mpr ⟨t, ht, ofTable_of_fault hf⟩
    obtain ⟨f', hmem', hgather⟩ := (h.choice s).some_error _ f hmem
    obtain ⟨u, hu, herror⟩ := List.mem_map.mp hmem'
    have hfault' : u.fault? = some f' := by
      cases hcase : u.fault? with
      | some e =>
        rw [ofTable_of_fault hcase] at herror
        exact congrArg some (Except.error.inj herror)
      | none =>
        rw [ofTable_of_sound hcase] at herror
        contradiction
    exact .inl ⟨hrepeats, u, hu, f', hfault', by simp only [hgather]⟩
  · have hsound : ∀ t ∈ ts, t.fault? = none := by
      intro t ht
      by_contra hne
      exact hfault ⟨t, ht, Option.ne_none_iff_exists'.mp hne⟩
    refine .inr ⟨hrepeats, hsound, ?_⟩
    rw [map_ofTable hsound, (h.choice s).all_ok]

/-- The outcome of generation but for the particulars of an error. -/
def outcome (s : Settings) (ts : List Table) : Except ErrorKind Generated :=
  if ¬ (stems ts).Nodup then .error .run
  else if ts.any (·.fault?.isSome) then .error .table
  else .ok (Keyed.ofList TableArtifacts.table (ts.map (artifactsOf s)))

theorem kind_generateWith {parallel : Gatherer} (h : parallel.Ordered) (s : Settings)
    (ts : List Table) : (generateWith parallel s ts).mapError Error.kind = outcome s ts := by
  unfold outcome
  obtain ⟨hr, f, heq⟩ | ⟨hr, t, ht, f, hf, heq⟩ | ⟨hr, hsound, heq⟩ := generateWith_cases h s ts
  · have hstems : ¬ (stems ts).Nodup := fun hnodup => not_repeats_iff.mpr hnodup hr
    rw [if_pos hstems, heq]
    rfl
  · have hany : ts.any (·.fault?.isSome) := List.any_eq_true.mpr ⟨t, ht, by rw [hf]; rfl⟩
    rw [if_neg (not_not.mpr (not_repeats_iff.mp hr)), if_pos hany, heq]
    rfl
  · have hany : ¬ ts.any (·.fault?.isSome) := by
      simpa using hsound
    rw [if_neg (not_not.mpr (not_repeats_iff.mp hr)), if_neg hany, heq]
    rfl

theorem artifactsOf_parallel (p : Bool) (t : Table) :
    artifactsOf { s with parallel := p } t = artifactsOf s t := by
  unfold artifactsOf modelOf qualified Settings.budget
  rfl

/-- Neither the order of the tables counts nor the way in which they are generated. -/
theorem outcome_perm (p : Bool) (h : us.Perm ts) :
    outcome { s with parallel := p } us = outcome s ts := by
  have hstems := stems_perm h
  unfold outcome
  by_cases hnodup : (stems ts).Nodup
  · rw [if_neg (not_not.mpr hnodup), if_neg (not_not.mpr (hstems.nodup_iff.mpr hnodup)), h.any_eq]
    by_cases hany : ts.any (·.fault?.isSome)
    · rw [if_pos hany, if_pos hany]
    · have hkeys := nodup_tables s (not_repeats_iff.mpr hnodup)
      have hall : (ts.map (artifactsOf s)).Perm (us.map (artifactsOf s)) := (h.map _).symm
      have hsame : us.map (artifactsOf { s with parallel := p }) = us.map (artifactsOf s) :=
        List.map_congr_left fun t _ => artifactsOf_parallel p t
      rw [if_neg hany, if_neg hany, hsame, Keyed.ofList_eq_of_perm hkeys hall]
  · rw [if_pos hnodup, if_pos (mt hstems.nodup_iff.mp hnodup)]

theorem run_error_iff {parallel : Gatherer} (h : parallel.Ordered) :
    (∃ f, generateWith parallel s ts = .error (.run f)) ↔ Repeats ts := by
  obtain ⟨hr, f, heq⟩ | ⟨hr, t, ht, f, hf, heq⟩ | ⟨hr, hsound, heq⟩ := generateWith_cases h s ts
  · exact iff_of_true ⟨f, heq⟩ hr
  · refine iff_of_false ?_ hr
    rintro ⟨f', heq'⟩
    rw [heq] at heq'
    cases heq'
  · refine iff_of_false ?_ hr
    rintro ⟨f', heq'⟩
    rw [heq] at heq'
    contradiction

theorem table_error_iff {parallel : Gatherer} (h : parallel.Ordered) :
    (∃ f, generateWith parallel s ts = .error (.table f)) ↔
      ¬ Repeats ts ∧ ∃ t ∈ ts, ∃ f, t.fault? = some f := by
  obtain ⟨hr, f, heq⟩ | ⟨hr, t, ht, f, hf, heq⟩ | ⟨hr, hsound, heq⟩ := generateWith_cases h s ts
  · refine iff_of_false ?_ fun hboth => hboth.1 hr
    rintro ⟨f', heq'⟩
    rw [heq] at heq'
    cases heq'
  · exact iff_of_true ⟨f, heq⟩ ⟨hr, t, ht, f, hf⟩
  · refine iff_of_false ?_ ?_
    · rintro ⟨f', heq'⟩
      rw [heq] at heq'
      contradiction
    · rintro ⟨-, t, ht, f, hf⟩
      rw [hsound t ht] at hf
      contradiction

theorem ok_iff {parallel : Gatherer} (h : parallel.Ordered) {g : Generated} :
    generateWith parallel s ts = .ok g ↔ ¬ Repeats ts ∧ (∀ t ∈ ts, t.fault? = none) ∧
      g = Keyed.ofList TableArtifacts.table (ts.map (artifactsOf s)) := by
  obtain ⟨hr, f, heq⟩ | ⟨hr, t, ht, f, hf, heq⟩ | ⟨hr, hsound, heq⟩ := generateWith_cases h s ts
  · rw [heq]
    exact iff_of_false nofun fun hall => hall.1 hr
  · rw [heq]
    refine iff_of_false nofun fun hall => ?_
    rw [hall.2.1 t ht] at hf
    contradiction
  · rw [heq, Except.ok.injEq]
    exact ⟨fun hg => ⟨hr, hsound, hg.symm⟩, fun hall => hall.2.2.symm⟩

/-- The map has an entry for each table, and it is what the table gives alone. -/
theorem entries_of_ok {parallel : Gatherer} (h : parallel.Ordered) {g : Generated}
    (hg : generateWith parallel s ts = .ok g) :
    Keyed.Sorted TableArtifacts.table g ∧ (g.map (·.table)).Perm (ts.map (·.name)) ∧
      ∀ t ∈ ts, ∃ a, ofTable s t = .ok a ∧ g.find? (·.table = t.name) = some a := by
  obtain ⟨hr, hsound, rfl⟩ := (ok_iff h).mp hg
  have hkeys := nodup_tables s hr
  have hperm := Keyed.ofList_perm hkeys
  have hsorted : Keyed.Sorted TableArtifacts.table (Keyed.ofList _ (ts.map (artifactsOf s))) :=
    Keyed.sorted_ofList _
  refine ⟨hsorted, (hperm.map _).trans (.of_eq (tables_artifactsOf s ts)), fun t ht => ?_⟩
  have hmem : artifactsOf s t ∈ ts.map (artifactsOf s) := List.mem_map_of_mem ht
  refine ⟨_, ofTable_of_sound (hsound t ht), ?_⟩
  have hfind := Keyed.find?_of_mem hsorted.nodup_keys (hperm.mem_iff.mpr hmem)
  rwa [table_artifactsOf] at hfind

/-- Repeated names make generation fail, whatever else is wrong; then the fault of any table does.
Otherwise every table has its own entry, and neither the order of the tables nor the way in which
they are generated makes a difference. -/
theorem generate_outcome {parallel : Gatherer} (h : parallel.Ordered) (s : Settings)
    (ts : List Table) :
    ((∃ f, generateWith parallel s ts = .error (.run f)) ↔ Repeats ts) ∧
    ((∃ f, generateWith parallel s ts = .error (.table f)) ↔
      ¬ Repeats ts ∧ ∃ t ∈ ts, ∃ f, t.fault? = some f) ∧
    ((∃ g, generateWith parallel s ts = .ok g) ↔ ¬ Repeats ts ∧ ∀ t ∈ ts, t.fault? = none) ∧
    (∀ g, generateWith parallel s ts = .ok g →
      Keyed.Sorted TableArtifacts.table g ∧ (g.map (·.table)).Perm (ts.map (·.name)) ∧
      ∀ t ∈ ts, ∃ a, ofTable s t = .ok a ∧ g.find? (·.table = t.name) = some a) ∧
    ∀ (parallel' : Gatherer) (p : Bool) (us : List Table), parallel'.Ordered → us.Perm ts →
      (generateWith parallel' { s with parallel := p } us).mapError Error.kind =
        (generateWith parallel s ts).mapError Error.kind := by
  refine ⟨run_error_iff h, table_error_iff h, ?_, fun g => entries_of_ok h, ?_⟩
  · constructor
    · rintro ⟨g, hg⟩
      obtain ⟨hr, hsound, -⟩ := (ok_iff h).mp hg
      exact ⟨hr, hsound⟩
    · rintro ⟨hr, hsound⟩
      exact ⟨_, (ok_iff h).mpr ⟨hr, hsound, rfl⟩⟩
  · intro parallel' p us h' hperm
    rw [kind_generateWith h', kind_generateWith h, outcome_perm p hperm]

/-- A second table of the name is told first, though it has no columns. -/
theorem users_given_twice :
    Gatherer.Ordered inOrder ∧
      (∃ f, generateWith inOrder {} [Model.userTable, { name := "USERS", columns := [] }] =
        .error (.run f)) ∧
      ∃ g, generateWith inOrder {} [Model.userTable] = .ok g := by
  have htwice := generate_outcome ordered_inOrder {}
    [Model.userTable, { name := "USERS", columns := [] }]
  have honce := generate_outcome ordered_inOrder {} [Model.userTable]
  have hstem : Text.lower "Users" = Text.lower "USERS" := by decide +kernel
  refine ⟨ordered_inOrder, htwice.1.mpr ⟨0, 1, _, _, Nat.one_pos, rfl, rfl, hstem⟩, ?_⟩
  refine honce.2.2.1.mpr ⟨not_repeats_iff.mpr (List.nodup_singleton _), ?_⟩
  simpa using (Model.build_eq_ok_iff.mp (Model.build_userTable "Main" {})).1

end Generation

end Scaffold
