import Scaffold.CommandLine.Execution
import Scaffold.Proofs.Artifact.Containment

/-! What a dry run lists, against the paths that a run writes. The listing joins a path to the
output folder at once, and the writer joins it segment by segment. -/
namespace Scaffold

open FileTree

namespace Path

variable {p q e : String}

theorem Raised.no_empty (h : Raised p q) (hp : "" ∉ segments p) : "" ∉ segments q := by
  unfold Raised at h
  generalize segments p = ss at h hp
  generalize segments q = rs at h
  induction h with
  | nil => simp
  | cons hsr _ ih =>
    rw [List.mem_cons, not_or] at hp ⊢
    obtain ⟨hs, hss⟩ := hp
    refine ⟨?_, ih hss⟩
    rintro rfl
    rcases hsr with heq | hname
    · exact hs heq
    · exact absurd hname (by decide)

theorem isAbsolute_append (h : isAbsolute p) (q : String) : isAbsolute (p ++ q) := by
  obtain ⟨r, rfl⟩ := isAbsolute_iff.mp h
  exact isAbsolute_iff.mpr ⟨r ++ q, String.append_assoc⟩

theorem isAbsolute_lower (h : isAbsolute p) : isAbsolute (Text.lower p) := by
  obtain ⟨r, rfl⟩ := isAbsolute_iff.mp h
  have hslash : ("/" ++ r).toList = '/' :: r.toList := by simp
  obtain ⟨l, heq, -, hkeep⟩ := Text.lowerAfter_cons [] '/' r.toList
  rw [(hkeep '/' (.inl rfl)).1 rfl] at heq
  refine isAbsolute_iff.mpr ⟨String.ofList (Text.lowerAfter ['/'] r.toList), ?_⟩
  rw [Text.lower, hslash, heq]
  exact String.toList_inj.mp (by simp)

/-- A text that stands in two places, and begins with a separator if it has an empty segment, has
none where empty segments come first. -/
theorem no_empty_of_pairwise (folder file : String)
    (h : (segments p ++ folder :: segments file).Pairwise fun s r => r = "" → s = "")
    (hp : p ≠ "") (hfolder : folder ≠ "") (hfile : isAbsolute p → isAbsolute file) :
    "" ∉ segments p := by
  intro hmem
  obtain ⟨hfront, hback, -⟩ := List.pairwise_append.mp h
  have habsolute : isAbsolute p := by
    rw [isAbsolute_iff_head hp]
    cases hsegments : segments p with
    | nil => exact absurd hsegments (segments_ne_nil p)
    | cons s rest =>
      rw [hsegments] at hfront hmem
      rcases List.mem_cons.mp hmem with heq | hrest
      · rw [← heq, List.head?_cons]
      · rw [(List.pairwise_cons.mp hfront).1 "" hrest rfl, List.head?_cons]
  obtain ⟨r, rfl⟩ := isAbsolute_iff.mp (hfile habsolute)
  rw [segments_slash_append] at hback
  exact hfolder ((List.pairwise_cons.mp hback).1 "" List.mem_cons_self rfl)

end Path

namespace ArtifactKind

variable {u : Table}

/-- A path has no empty segment if the name of its table has none. -/
theorem no_empty_path (h : "" ∉ Path.segments u.name) (k : ArtifactKind) (database : String) :
    "" ∉ Path.segments (k.path (.ofTable u database)) := by
  have hparts := parts_of_raised (P := fun p => "" ∉ Path.segments p) Path.Raised.no_empty
    (by decide) h k
  rw [segments_path_eq_flatMap]
  simpa using hparts

/-- In the files that are called like the table its name stands twice. -/
theorem no_empty_of_below_eq_join {k : ArtifactKind} (hk : k ∈ [entity, clientInterface])
    (hname : u.name ≠ "") {database folder : String}
    (h : Path.below folder (k.path (.ofTable u database)) =
      Path.join folder (k.path (.ofTable u database))) : "" ∉ Path.segments u.name := by
  have hlast : (Path.segments (k.path (.ofTable u database))).getLast? ≠ some "" := by
    intro hlast
    have hbase := isName_baseName_path k u database
    rw [baseName, hlast] at hbase
    exact absurd hbase (by decide)
  have hfirst := Path.pairwise_of_below_eq_join hlast h
  have hnet : Path.segments "Net" = ["Net"] := by decide
  have hangular : Path.segments "Angular" = ["Angular"] := by decide
  rw [segments_path_eq_flatMap] at hfirst
  simp only [List.mem_cons, List.not_mem_nil, or_false] at hk
  rcases hk with rfl | rfl
  · refine Path.no_empty_of_pairwise "Net" (u.name ++ "Entity.cs") ?_ hname (by decide)
      fun habsolute => Path.isAbsolute_append habsolute _
    simpa [parts, folders, fileFront, ending, hnet] using hfirst
  · refine Path.no_empty_of_pairwise "Angular" (Text.lower u.name ++ "." ++ "ts") ?_ hname
      (by decide) fun habsolute => ?_
    · simpa [parts, folders, fileFront, ending, hangular] using hfirst
    · exact Path.isAbsolute_append (Path.isAbsolute_append (Path.isAbsolute_lower habsolute) _) _

end ArtifactKind

namespace Generation

variable {s : Settings} {u : Table}

/-- The joined paths of a table agree exactly if its name has no empty segment. -/
theorem below_eq_join_iff (hu : u.fault? = none) (hs : s.backend ∨ s.client) (folder : String) :
    (∀ p ∈ (artifactsOf s u).paths, Path.below folder p = Path.join folder p) ↔
      "" ∉ Path.segments u.name := by
  rw [paths_artifactsOf, List.forall_mem_map, names_modelOf]
  constructor
  · intro h
    have hkind : ∃ k ∈ kinds s, k ∈ [ArtifactKind.entity, .clientInterface] := by
      unfold kinds
      rcases hs with hs | hs <;> rw [hs]
      · exact ⟨.entity, List.mem_append_left _ (by decide), by decide⟩
      · exact ⟨.clientInterface, List.mem_append_right _ (by decide), by decide⟩
    obtain ⟨k, hmem, hk⟩ := hkind
    have hname : (qualified s u).name ≠ "" := by
      rw [name_qualified]
      exact name_ne_empty hu
    rw [← name_qualified s u]
    exact ArtifactKind.no_empty_of_below_eq_join hk hname (h k hmem)
  · intro h k _
    rw [← name_qualified s u] at h
    exact Path.below_eq_join (ArtifactKind.no_empty_path h k _) folder

end Generation

variable {α : Type} {s : Settings} {t : FileTree} {g : Generated}

theorem execute_validate (s : Settings) (t : FileTree) :
    execute s.validate t =
      (match s.fault? (t.isPresent s.schemaFile) with
        | some fault => .error (.run fault)
        | none => .ok (), t) := by
  unfold Settings.validate
  have hpresent : execute (liftM (FileStore.isPresent s.schemaFile : StateM FileTree Bool)) t =
      (.ok (t.isPresent s.schemaFile), t) := rfl
  rw [execute_bind, hpresent]
  dsimp only
  cases s.fault? (t.isPresent s.schemaFile) <;> rfl

theorem execute_checkedRun (h : s.fault? (t.isPresent s.schemaFile) = none) :
    execute s.checkedRun t = execute s.run t := by
  unfold Settings.checkedRun
  rw [execute_bind, execute_validate, h]

theorem execute_run_dry (hdry : s.dryRun) (hg : generatedAt s t = .ok g) :
    execute s.run t = (.ok g, t) := by
  rw [execute_run, hg, hdry]
  dsimp only
  rw [writeArtifacts_dry]

theorem run_adapt {β : Type} (x : ExceptT Error (StateM FileTree) α) (f : Error → β)
    (t : FileTree) :
    (x.adapt f : ExceptT β (StateM FileTree) α) t =
      ((execute x t).1.mapError f, (execute x t).2) := rfl

namespace CommandLine

/-- What a command reports, and the file system afterwards. -/
def performed (x : ExceptT Failure (StateM FileTree) Report) (t : FileTree) :
    Except Failure Report × FileTree :=
  x.run.run t

/-- Without writing, a sound run reports its listing. -/
theorem performed_dry_run (hvalid : s.fault? (t.isPresent s.schemaFile) = none)
    (hdry : s.dryRun) (hg : generatedAt s t = .ok g) :
    performed (generate s) t = (.ok (listing s g, none), t) := by
  have hrun : Scaffold.execute s.checkedRun t = (.ok g, t) := by
    rw [execute_checkedRun hvalid, execute_run_dry hdry hg]
  have hadapt : (s.checkedRun.adapt Failure.run : ExceptT Failure (StateM FileTree) Generated) t =
      (Except.ok g, t) := by
    rw [run_adapt, hrun]
    rfl
  unfold performed generate
  rw [ExceptT.run_bind, StateT.run_bind]
  unfold ExceptT.run StateT.run
  rw [hadapt, hdry]
  rfl

theorem backend_or_client_of_valid {present : Bool} (h : s.fault? present = none) :
    s.backend ∨ s.client := by
  by_contra hneither
  rw [not_or, Bool.not_eq_true, Bool.not_eq_true] at hneither
  rw [Settings.fault?, hneither.1, hneither.2] at h
  split at h
  · contradiction
  · split at h <;> contradiction

/-- A dry run lists its files, line by line, under the paths that a run writes them to, or a dry run
tells, exactly if no table has a name with an empty segment: one that begins or ends with a
separator, or has two of them in a row. -/
theorem listing_eq_written_iff (hvalid : s.fault? (t.isPresent s.schemaFile) = none)
    (hdry : s.dryRun) (hg : generatedAt s t = .ok g) :
    performed (generate s) t = (.ok (listing s g, none), t) ∧
    (∃ paths, Scaffold.execute (writeArtifacts g s.outputDir true) t = (.ok paths, t)) ∧
    ∀ dry u u' paths, Scaffold.execute (writeArtifacts g s.outputDir dry) u = (.ok paths, u') →
      (listing s g = "Dry run mode - would generate:" :: paths.map ("  " ++ ·) ↔
        ∀ a ∈ g, "" ∉ Path.segments a.table) := by
  refine ⟨performed_dry_run hvalid hdry hg, ⟨_, writeArtifacts_dry g s.outputDir t⟩, ?_⟩
  intro dry u u' paths hwritten
  have hsides := backend_or_client_of_valid hvalid
  obtain ⟨ts, hts⟩ := generate_of_generatedAt hg
  obtain rfl := Generation.paths_of_execute hwritten
  have hlines : listing s g = "Dry run mode - would generate:" ::
        ((Generated.targets s.outputDir g).map (·.1)).map ("  " ++ ·) ↔
      ∀ a ∈ g, ∀ p ∈ a.paths, Path.below s.outputDir p = Path.join s.outputDir p := by
    rw [listing, List.cons_inj_right, Generation.map_targets, List.map_map, List.map_inj_left,
      List.forall_mem_flatMap]
    simp only [Function.comp_apply, String.append_right_inj, eq_comm]
  rw [hlines]
  refine forall₂_congr fun a ha => ?_
  obtain ⟨v, -, hsound, rfl⟩ := Generation.mem_of_generate hts ha
  rw [Generation.below_eq_join_iff hsound hsides, Generation.table_artifactsOf]

/-- A file system with nothing but a schema of one table, whose name begins with a separator. -/
def rootedTree : FileTree :=
  { entries := [(["t.json"], .file "[[\"/Users\",\"\",null,null,[[\"Id\",\"int\"]]]]")] }

def drySettings : Settings := { schemaSettings with dryRun := true }

theorem exists_generated {β : Type} {x : Except Error Generated} {f : Generated → β} {y : β}
    (h : x.toOption.map f = some y) : ∃ g, x = .ok g ∧ f g = y := by
  cases x with
  | error e => contradiction
  | ok g => exact ⟨g, rfl, Option.some.inj h⟩

theorem schema_files_listed :
    ∃ g, drySettings.fault? (schemaTree.isPresent drySettings.schemaFile) = none ∧
      drySettings.dryRun ∧ generatedAt drySettings schemaTree = .ok g ∧
      performed (generate drySettings) schemaTree =
        (.ok (listing drySettings g, none), schemaTree) ∧
      ∀ u u' paths,
        Scaffold.execute (writeArtifacts g drySettings.outputDir false) u = (.ok paths, u') →
          listing drySettings g = "Dry run mode - would generate:" :: paths.map ("  " ++ ·) := by
  have hvalid : drySettings.fault? (schemaTree.isPresent drySettings.schemaFile) = none := by
    decide +kernel
  have hrun : (generatedAt drySettings schemaTree).toOption.map (·.map (·.table)) = some ["T"] := by
    decide +kernel
  obtain ⟨g, hg, htables⟩ := exists_generated hrun
  obtain ⟨hreport, -, hlisted⟩ := listing_eq_written_iff hvalid rfl hg
  refine ⟨g, hvalid, rfl, hg, hreport, fun u u' paths hwritten => ?_⟩
  refine (hlisted false u u' paths hwritten).mpr fun a ha => ?_
  have hmem : a.table ∈ g.map (·.table) := List.mem_map_of_mem ha
  rw [htables, List.mem_singleton] at hmem
  rw [hmem]
  decide +kernel

theorem rooted_table_listed_apart :
    ∃ g, drySettings.fault? (rootedTree.isPresent drySettings.schemaFile) = none ∧
      generatedAt drySettings rootedTree = .ok g ∧
      performed (generate drySettings) rootedTree =
        (.ok (listing drySettings g, none), rootedTree) ∧
      (listing drySettings g)[1]? = some "  /Users/Net/Config.cs" ∧
      ∀ dry u u' paths,
        Scaffold.execute (writeArtifacts g drySettings.outputDir dry) u = (.ok paths, u') →
          paths[0]? = some "out/Users/Net/Config.cs" ∧
          listing drySettings g ≠ "Dry run mode - would generate:" :: paths.map ("  " ++ ·) := by
  have hvalid : drySettings.fault? (rootedTree.isPresent drySettings.schemaFile) = none := by
    decide +kernel
  have hrun : (generatedAt drySettings rootedTree).toOption.map (fun g =>
      ((listing drySettings g)[1]?, ((Generated.targets "out" g).map (·.1))[0]?)) =
      some (some "  /Users/Net/Config.cs", some "out/Users/Net/Config.cs") := by
    decide +kernel
  obtain ⟨g, hg, hresult⟩ := exists_generated hrun
  obtain ⟨hlisted, hfirst⟩ := Prod.mk.inj hresult
  refine ⟨g, hvalid, hg, performed_dry_run hvalid rfl hg, hlisted, ?_⟩
  intro dry u u' paths hwritten
  obtain rfl := Generation.paths_of_execute hwritten
  refine ⟨hfirst, fun heq => ?_⟩
  rw [heq, List.getElem?_cons_succ, List.getElem?_map] at hlisted
  obtain ⟨path, hpath, hline⟩ := Option.map_eq_some_iff.mp hlisted
  obtain rfl : path = "out/Users/Net/Config.cs" := Option.some.inj (hpath.symm.trans hfirst)
  exact absurd hline (by decide)

end CommandLine

end Scaffold
