import Scaffold.Proofs.Artifact.Paths
import Scaffold.Proofs.Generation.Outcome

/-! The artifacts of a run stay apart: their paths and their selectors are all different. -/
namespace Scaffold

namespace Names

/-- The selectors of all components of a table. -/
def selectors (n : Names) : List String :=
  n.matTableSelector :: Operation.all.map n.componentSelector

/-- What follows the stem in a selector; without an operation it is the one of the listing. -/
def selectorEnd : Option Operation → String
  | none => "-mat-table"
  | some op => "-" ++ op.word

def selectorKinds : List (Option Operation) := none :: Operation.all.map some

variable {n n' : Names} {o o' : Option Operation}

theorem selectors_eq (n : Names) :
    n.selectors = selectorKinds.map fun o => "app-" ++ (n.stem ++ selectorEnd o) := by
  simp [selectors, selectorKinds, selectorEnd, matTableSelector, componentSelector, componentStem,
    String.append_assoc]

theorem mem_selectorKinds (o : Option Operation) : o ∈ selectorKinds := by
  rcases o with _ | _ | _ | _ | _ <;> decide

theorem selectorEnds_apart : ∀ o ∈ selectorKinds, ∀ o' ∈ selectorKinds,
    (selectorEnd o).toList <:+ (selectorEnd o').toList → o = o' := by
  decide +kernel

theorem selector_inj
    (h : "app-" ++ (n.stem ++ selectorEnd o) = "app-" ++ (n'.stem ++ selectorEnd o')) :
    n.stem = n'.stem ∧ o = o' := by
  have hrest := (String.append_right_inj _).mp h
  have hlist := congrArg String.toList hrest
  simp only [String.toList_append] at hlist
  have hend := List.suffix_append n.stem.toList (selectorEnd o).toList
  rw [hlist] at hend
  have hsame : o = o' := by
    rcases List.suffix_or_suffix_of_suffix hend (List.suffix_append _ _) with hle | hle
    · exact selectorEnds_apart o (mem_selectorKinds o) o' (mem_selectorKinds o') hle
    · exact (selectorEnds_apart o' (mem_selectorKinds o') o (mem_selectorKinds o) hle).symm
  rw [hsame] at hrest
  exact ⟨(String.append_left_inj _).mp hrest, hsame⟩

theorem nodup_selectors (n : Names) : n.selectors.Nodup := by
  rw [selectors_eq]
  exact List.Nodup.map (fun o o' h => (selector_inj h).2) (by decide)

theorem disjoint_selectors (h : n.stem ≠ n'.stem) : List.Disjoint n.selectors n'.selectors := by
  rw [selectors_eq, selectors_eq]
  intro x hx hx'
  obtain ⟨o, -, rfl⟩ := List.mem_map.mp hx
  obtain ⟨o', -, heq⟩ := List.mem_map.mp hx'
  exact h (selector_inj heq.symm).1

end Names

theorem TableArtifacts.texts_perm {a : TableArtifacts} (h : a.paths.Nodup) :
    a.texts.Perm (a.artifacts.map fun x => (x.path, x.text)) := by
  refine Keyed.ofList_perm ?_
  rwa [List.map_map]

namespace Generation

variable {s : Settings} {ts : List Table} {t u : Table} {g : Generated}

/-- The kinds of artifacts that the settings ask for. -/
def kinds (s : Settings) : List ArtifactKind :=
  (if s.backend then ArtifactKind.backend else []) ++ if s.client then ArtifactKind.client else []

theorem nodup_kinds (s : Settings) : (kinds s).Nodup := by
  unfold kinds
  split <;> split <;> decide

theorem paths_artifactsOf (s : Settings) (t : Table) :
    (artifactsOf s t).paths = (kinds s).map fun k => k.path (modelOf s t).names := by
  rw [TableArtifacts.paths, artifactsOf, TableArtifacts.ofModel, List.map_map]
  rfl

theorem nodup_paths (s : Settings) (t : Table) : (artifactsOf s t).paths.Nodup := by
  rw [paths_artifactsOf]
  refine List.Nodup.map (fun k k' h => ?_) (nodup_kinds s)
  exact (ArtifactKind.path_inj h).2

theorem disjoint_paths (h : t.name ≠ u.name) :
    List.Disjoint (artifactsOf s t).paths (artifactsOf s u).paths := by
  rw [paths_artifactsOf, paths_artifactsOf]
  intro p hp hp'
  obtain ⟨k, -, rfl⟩ := List.mem_map.mp hp
  obtain ⟨k', -, heq⟩ := List.mem_map.mp hp'
  rw [names_modelOf, names_modelOf] at heq
  have hname := (ArtifactKind.path_inj heq).1
  rw [name_qualified, name_qualified] at hname
  exact h hname.symm

theorem pairwise_tables (h : ¬ Repeats ts) :
    ts.Pairwise fun t u => Text.lower t.name ≠ Text.lower u.name :=
  List.pairwise_map.mp (not_repeats_iff.mp h)

theorem nodup_flatMap_paths (h : ¬ Repeats ts) :
    ((ts.map (artifactsOf s)).flatMap (·.paths)).Nodup := by
  rw [List.flatMap_map, List.nodup_flatMap]
  refine ⟨fun t _ => nodup_paths s t, (pairwise_tables h).imp fun {t u} hlower => ?_⟩
  exact disjoint_paths fun hname => hlower (congrArg Text.lower hname)

theorem stem_modelOf (s : Settings) (t : Table) :
    (modelOf s t).names.stem = Text.lower t.name :=
  congrArg Text.lower (name_qualified s t)

theorem nodup_flatMap_selectors (h : ¬ Repeats ts) :
    ((ts.map (modelOf s)).flatMap (·.names.selectors)).Nodup := by
  rw [List.flatMap_map, List.nodup_flatMap]
  refine ⟨fun t _ => Names.nodup_selectors _, (pairwise_tables h).imp fun {t u} hlower => ?_⟩
  refine Names.disjoint_selectors ?_
  rwa [stem_modelOf, stem_modelOf]

/-- Nothing that is generated in a run takes the place of something else: paths are different, the
texts of a table are all kept, and so are the selectors of the components. -/
theorem artifacts_distinct {parallel : Gatherer} (h : parallel.Ordered)
    (hg : generateWith parallel s ts = .ok g) :
    (g.flatMap (·.paths)).Nodup ∧
    (∀ a ∈ g, a.texts.Perm (a.artifacts.map fun x => (x.path, x.text))) ∧
    ∃ ms : List Model, ts.map (model s) = ms.map .ok ∧ (ms.flatMap (·.names.selectors)).Nodup := by
  obtain ⟨hr, hsound, rfl⟩ := (ok_iff h).mp hg
  have hperm := Keyed.ofList_perm (nodup_tables s hr)
  refine ⟨?_, fun a ha => ?_, ts.map (modelOf s), ?_, nodup_flatMap_selectors hr⟩
  · exact (hperm.flatMap_right _).nodup_iff.mpr (nodup_flatMap_paths hr)
  · obtain ⟨t, -, rfl⟩ := List.mem_map.mp (hperm.mem_iff.mp ha)
    exact TableArtifacts.texts_perm (nodup_paths s t)
  · rw [List.map_map]
    exact List.map_congr_left fun t ht => model_of_sound (hsound t ht)

/-- A table that is called like the backend folder of another one. -/
def folderTable : Table := { Model.userTable with name := "Users/Net" }

theorem folder_table_apart :
    ∃ g, generateWith inOrder {} [Model.userTable, folderTable] = .ok g ∧
      (g.flatMap (·.paths)).Nodup ∧
      ∀ a ∈ g, a.texts.Perm (a.artifacts.map fun x => (x.path, x.text)) := by
  have hstems : (stems [Model.userTable, folderTable]).Nodup := by decide +kernel
  have hsound : ∀ t ∈ [Model.userTable, folderTable], t.fault? = none := by decide +kernel
  have hg := (ok_iff ordered_inOrder (s := {})).mpr ⟨not_repeats_iff.mpr hstems, hsound, rfl⟩
  obtain ⟨hpaths, htexts, -⟩ := artifacts_distinct ordered_inOrder hg
  exact ⟨_, hg, hpaths, htexts⟩

end Generation

end Scaffold
