import Scaffold.Proofs.Files.Places
import Scaffold.Proofs.Generation.Distinct
import Scaffold.Run

/-! What a run does to the file system. -/
namespace Scaffold

variable {α β : Type} {s : Settings} {t t' : FileTree}

/-- The result, and the file system afterwards. -/
def execute (x : ExceptT Error (StateM FileTree) α) (t : FileTree) : Except Error α × FileTree :=
  x.run.run t

theorem execute_bind (x : ExceptT Error (StateM FileTree) α)
    (f : α → ExceptT Error (StateM FileTree) β) (t : FileTree) :
    execute (x >>= f) t =
      match execute x t with
      | (.ok a, t') => execute (f a) t'
      | (.error e, t') => (.error e, t') := by
  unfold execute
  rw [ExceptT.run_bind, StateT.run_bind]
  rcases StateT.run (ExceptT.run x) t with ⟨_ | a, t'⟩ <;> rfl

theorem execute_discard (x : ExceptT Error (StateM FileTree) α) (t : FileTree) :
    execute (discard x) t =
      match execute x t with
      | (.ok _, t') => (.ok ⟨⟩, t')
      | (.error e, t') => (.error e, t') := by
  have hdiscard : discard x = x >>= fun _ => pure ⟨⟩ := by
    rw [Functor.discard, map_const, Function.comp_apply, bind_pure_comp]
  rw [hdiscard, execute_bind]
  rfl

/-- The tables of a schema file, as far as the file system goes. -/
def tablesAt (t : FileTree) (path : String) : Except Error (List Table) :=
  match t.read? path with
  | none => .error .file
  | some text =>
    match (SchemaFormat.ofPath path).tables text with
    | .ok ts => .ok ts
    | .error fault => .error (.schemaText fault)

theorem execute_loadSchema (path : String) (t : FileTree) :
    execute (loadSchema path) t = (tablesAt t path, t) := by
  unfold loadSchema tablesAt
  have hread : execute (liftM (FileStore.read? path : StateM FileTree (Option String))) t =
      (.ok (t.read? path), t) := rfl
  rw [execute_bind, hread]
  dsimp only
  cases t.read? path with
  | none => rfl
  | some text =>
    dsimp only
    cases (SchemaFormat.ofPath path).tables text <;> rfl

/-- Writes one file after the other, up to the first failure. -/
def writeAll : List (String × String) → FileTree → Except Error Unit × FileTree
  | [], t => (.ok (), t)
  | (path, text) :: rest, t =>
    match t.write path text with
    | (t', true) => writeAll rest t'
    | (t', false) => (.error .file, t')

theorem execute_writeFile (path text : String) (t : FileTree) :
    execute (writeFile path text) t =
      match t.write path text with
      | (t', true) => (.ok (), t')
      | (t', false) => (.error .file, t') := by
  unfold writeFile
  rw [execute_bind]
  change (match ((t.write path text).2, (t.write path text).1) with
    | (done, t') => execute (if !done then throw Error.file else pure ()) t') = _
  rcases t.write path text with ⟨t', _ | _⟩ <;> rfl

/-- A loop that writes a file in each turn. -/
theorem execute_forIn
    {turn : String × String → PUnit → ExceptT Error (StateM FileTree) (ForInStep PUnit)}
    (hturn : ∀ path text t, execute (turn (path, text) ⟨⟩) t =
      match t.write path text with
      | (t', true) => (.ok (.yield ⟨⟩), t')
      | (t', false) => (.error .file, t'))
    (targets : List (String × String)) (t : FileTree) :
    execute (forIn targets PUnit.unit turn) t = writeAll targets t := by
  induction targets generalizing t with
  | nil => rfl
  | cons target rest ih =>
    obtain ⟨path, text⟩ := target
    rw [List.forIn_cons, execute_bind, hturn, writeAll]
    rcases t.write path text with ⟨t', _ | _⟩
    · rfl
    · exact ih t'

theorem execute_writeArtifacts (g : Generated) (outputDir : String) (dryRun : Bool)
    (t : FileTree) :
    execute (writeArtifacts g outputDir dryRun) t =
      match if dryRun then (.ok (), t) else writeAll (Generated.targets outputDir g) t with
      | (.ok (), t') => (.ok ((Generated.targets outputDir g).map (·.1)), t')
      | (.error e, t') => (.error e, t') := by
  unfold writeArtifacts
  cases dryRun
  · dsimp only
    rw [if_pos (by rfl), if_neg (by simp), execute_bind, execute_forIn]
    · rcases writeAll (Generated.targets outputDir g) t with ⟨_ | _, t'⟩ <;> rfl
    · intro path text t
      rw [execute_bind, execute_writeFile]
      rcases t.write path text with ⟨t', _ | _⟩ <;> rfl
  · rfl

/-- What generation gives for the schema file. -/
def generatedAt (s : Settings) (t : FileTree) : Except Error Generated :=
  (tablesAt t s.schemaFile).bind (Generation.generateSelected s)

/-- The tables of the schema are read and generated before the first file is written. -/
theorem execute_run (s : Settings) (t : FileTree) :
    execute s.run t =
      match generatedAt s t with
      | .error e => (.error e, t)
      | .ok g =>
        match execute (writeArtifacts g s.outputDir s.dryRun) t with
        | (.ok _, t') => (.ok g, t')
        | (.error e, t') => (.error e, t') := by
  unfold Settings.run generatedAt
  rw [execute_bind, execute_loadSchema]
  cases tablesAt t s.schemaFile with
  | error e => rfl
  | ok ts =>
    dsimp only [Except.bind]
    have hgenerate : execute (ExceptT.mk (pure (Generation.generateSelected s ts))) t =
        (Generation.generateSelected s ts, t) := rfl
    rw [execute_bind, hgenerate]
    cases Generation.generateSelected s ts with
    | error e => rfl
    | ok g =>
      dsimp only
      rw [execute_bind, execute_discard]
      rcases execute (writeArtifacts g s.outputDir s.dryRun) t with ⟨_ | _, t'⟩ <;> rfl

namespace FileTree

variable {u : FileTree} {files : List (Location × String)} {folders : List Location}

theorem Changes.start_eq (h : Changes t t' files folders) (p : String) :
    t'.start p = t.start p := by
  rw [start, start, h.working]

theorem Changes.place_eq (h : Changes t t' files folders) (p : String) :
    t'.place p = t.place p := by
  rw [place, place, h.start_eq]

theorem Changes.above_eq (h : Changes t t' files folders) (p : String) :
    t'.above p = t.above p := by
  rw [above, above, h.start_eq]

end FileTree

open FileTree

/-- Texts that go to different places all arrive, and nothing else happens. -/
theorem changes_of_writeAll {targets : List (String × String)}
    (h : writeAll targets t = (.ok (), t')) (hplaces : (targets.map fun f => t.place f.1).Nodup) :
    Changes t t' (targets.map fun f => (t.place f.1, f.2))
      (targets.flatMap fun f => t.above f.1) := by
  induction targets generalizing t with
  | nil =>
    cases h
    exact .refl _
  | cons target rest ih =>
    obtain ⟨path, text⟩ := target
    rw [writeAll] at h
    split at h
    case h_2 => cases h
    case h_1 u hwrite =>
      obtain ⟨hfirst, hrest⟩ := List.nodup_cons.mp hplaces
      have hone := Changes.write hwrite
      have hmany := ih h (by simpa only [hone.place_eq] using hrest)
      simp only [hone.place_eq, hone.above_eq] at hmany
      refine hone.trans hmany (List.singleton_disjoint.mpr ?_)
      rw [List.map_map]
      exact hfirst

theorem error_of_writeAll {targets : List (String × String)} {e : Error}
    (h : writeAll targets t = (.error e, t')) : e = .file := by
  induction targets generalizing t with
  | nil => cases h
  | cons target rest ih =>
    rw [writeAll] at h
    split at h
    case h_1 => exact ih h
    case h_2 =>
      cases h
      rfl

theorem rooted_of_writeAll {targets : List (String × String)} (hroot : t.Rooted)
    (h : writeAll targets t = (.ok (), t')) : t'.Rooted := by
  induction targets generalizing t with
  | nil =>
    cases h
    exact hroot
  | cons target rest ih =>
    rw [writeAll] at h
    split at h
    case h_1 u hwrite => exact ih (hroot.write hwrite) h
    case h_2 => cases h

/-- Where the texts stand with their folders, each of them is read from the path it went to. -/
theorem read?_of_writeAll {u : FileTree} {targets : List (String × String)}
    (h : writeAll targets t = (.ok (), t')) (hroot : u.Rooted)
    (hworking : u.workingFolder = t.workingFolder)
    (hfiles : ∀ f ∈ targets, u.node? (t.place f.1) = some (.file f.2))
    (hfolders : ∀ f ∈ targets, ∀ x ∈ t.above f.1, u.node? x = some .folder) :
    ∀ f ∈ targets, u.read? f.1 = some f.2 := by
  induction targets generalizing t with
  | nil => simp
  | cons target rest ih =>
    obtain ⟨path, text⟩ := target
    obtain ⟨hfile, hfiles⟩ := List.forall_mem_cons.mp hfiles
    obtain ⟨hfolder, hfolders⟩ := List.forall_mem_cons.mp hfolders
    rw [writeAll] at h
    split at h
    case h_2 => cases h
    case h_1 v hwrite =>
      have hone := Changes.write hwrite
      have hhead := read?_of_write hwrite hroot hworking hfolder hfile
      refine List.forall_mem_cons.mpr ⟨hhead, ih h (hworking.trans hone.working.symm) ?_ ?_⟩
      · simpa only [hone.place_eq] using hfiles
      · simpa only [hone.above_eq] using hfolders

namespace Generation

variable {ts : List Table} {g : Generated}

theorem mem_of_generate (h : generate s ts = .ok g) {a : TableArtifacts} (ha : a ∈ g) :
    ∃ u ∈ ts, u.fault? = none ∧ artifactsOf s u = a := by
  obtain ⟨hr, hsound, rfl⟩ := (ok_iff ordered_inOrder).mp h
  have hperm := Keyed.ofList_perm (nodup_tables s hr)
  obtain ⟨u, hu, rfl⟩ := List.mem_map.mp (hperm.mem_iff.mp ha)
  exact ⟨u, hu, hsound u hu, rfl⟩

/-- Where table names are names of folders, all segments of the paths are names. -/
theorem segments_of_mem_paths (h : generate s ts = .ok g)
    (hnames : ∀ a ∈ g, '/' ∉ a.table.toList ∧ a.table ≠ "." ∧ a.table ≠ "..") :
    ∀ p ∈ g.flatMap (·.paths),
      (∀ r ∈ Path.segments p, isName r) ∧ "/".intercalate (Path.segments p) = p := by
  intro p hp
  obtain ⟨a, ha, hpath⟩ := List.mem_flatMap.mp hp
  obtain ⟨u, -, hsound, rfl⟩ := mem_of_generate h ha
  obtain ⟨hslash, hdot, hdots⟩ := hnames _ ha
  rw [table_artifactsOf] at hslash hdot hdots
  rw [paths_artifactsOf] at hpath
  obtain ⟨k, -, rfl⟩ := List.mem_map.mp hpath
  have hname : isName (qualified s u).name := by
    rw [name_qualified]
    exact isName_of_sound hsound hdot hdots
  have hslash' : '/' ∉ (qualified s u).name.toList := by rwa [name_qualified]
  rw [names_modelOf, ArtifactKind.segments_path hname hslash', ArtifactKind.path_eq_intercalate]
  exact ⟨fun r hr => (ArtifactKind.parts_named hname hslash' k r hr).1, rfl⟩

/-- An artifact lies below the place of the output folder, as its path says. -/
theorem place_of_mem_paths (h : generate s ts = .ok g)
    (hnames : ∀ a ∈ g, '/' ∉ a.table.toList ∧ a.table ≠ "." ∧ a.table ≠ "..") (t : FileTree)
    (folder : String) : ∀ p ∈ g.flatMap (·.paths),
      t.place (Path.below folder p) = t.place folder ++ Path.segments p := by
  intro p hp
  rw [place_below, foldl_onward (segments_of_mem_paths h hnames p hp).1]

/-- Each artifact goes below the output folder, with its text. -/
theorem targets_eq (folder : String) (g : Generated) :
    Generated.targets folder g =
      (g.flatMap (·.artifacts)).map fun x => (Path.below folder x.path, x.text) := by
  simp only [Generated.targets, List.map_flatMap]
  rfl

theorem paths_eq (g : Generated) :
    g.flatMap (·.paths) = (g.flatMap (·.artifacts)).map (·.path) := by
  simp only [TableArtifacts.paths, List.map_flatMap]

theorem map_targets (folder : String) (g : Generated) :
    (Generated.targets folder g).map (·.1) = (g.flatMap (·.paths)).map (Path.below folder) := by
  rw [targets_eq, paths_eq, List.map_map, List.map_map]
  rfl

theorem place_of_mem_artifacts (h : generate s ts = .ok g)
    (hnames : ∀ a ∈ g, '/' ∉ a.table.toList ∧ a.table ≠ "." ∧ a.table ≠ "..") (t : FileTree)
    (folder : String) : ∀ x ∈ g.flatMap (·.artifacts),
      t.place (Path.below folder x.path) = t.place folder ++ Path.segments x.path := by
  have hplace := place_of_mem_paths h hnames t folder
  rwa [paths_eq, List.forall_mem_map] at hplace

/-- Different artifacts come to lie at different places. -/
theorem nodup_places (h : generate s ts = .ok g)
    (hnames : ∀ a ∈ g, '/' ∉ a.table.toList ∧ a.table ≠ "." ∧ a.table ≠ "..") (t : FileTree)
    (folder : String) :
    ((g.flatMap (·.artifacts)).map fun x => t.place folder ++ Path.segments x.path).Nodup := by
  have hpaths := (artifacts_distinct ordered_inOrder h).1
  have hread := segments_of_mem_paths h hnames
  have hplaces : ((g.flatMap (·.paths)).map fun p => t.place folder ++ Path.segments p).Nodup := by
    refine hpaths.map_on fun p hp q hq heq => ?_
    rw [← (hread p hp).2, ← (hread q hq).2, List.append_cancel_left heq]
  rwa [paths_eq, List.map_map] at hplaces

theorem map_place_targets (h : generate s ts = .ok g)
    (hnames : ∀ a ∈ g, '/' ∉ a.table.toList ∧ a.table ≠ "." ∧ a.table ≠ "..") (t : FileTree)
    (folder : String) :
    (Generated.targets folder g).map (fun f => (t.place f.1, f.2)) =
      (g.flatMap (·.artifacts)).map fun x => (t.place folder ++ Path.segments x.path, x.text) := by
  rw [targets_eq, List.map_map]
  refine List.map_congr_left fun x hx => ?_
  rw [Function.comp_apply, place_of_mem_artifacts h hnames t folder x hx]

/-- Writing the artifacts puts the text of each in its place, and makes the folders above. -/
theorem changes_of_targets {folder : String} (h : generate s ts = .ok g)
    (hnames : ∀ a ∈ g, '/' ∉ a.table.toList ∧ a.table ≠ "." ∧ a.table ≠ "..")
    (hwritten : writeAll (Generated.targets folder g) t = (.ok (), t')) :
    Changes t t'
      ((g.flatMap (·.artifacts)).map fun x => (t.place folder ++ Path.segments x.path, x.text))
      ((g.flatMap (·.artifacts)).flatMap fun x => t.above (Path.below folder x.path)) := by
  have hmap := map_place_targets h hnames t folder
  have hnodup : ((Generated.targets folder g).map fun f => t.place f.1).Nodup := by
    have hfirst := congrArg (List.map Prod.fst) hmap
    rw [List.map_map, List.map_map] at hfirst
    exact hfirst ▸ nodup_places h hnames t folder
  have hchanges := changes_of_writeAll hwritten hnodup
  rwa [hmap, targets_eq, List.flatMap_map] at hchanges

/-- The text of each artifact is read from its path afterwards. -/
theorem read?_of_targets {folder : String} (h : generate s ts = .ok g)
    (hnames : ∀ a ∈ g, '/' ∉ a.table.toList ∧ a.table ≠ "." ∧ a.table ≠ "..")
    (hwritten : writeAll (Generated.targets folder g) t = (.ok (), t')) (hroot : t.Rooted)
    {x : Artifact} (hx : x ∈ g.flatMap (·.artifacts)) :
    t'.read? (Path.below folder x.path) = some x.text := by
  have hchanges := changes_of_targets h hnames hwritten
  have hread : ∀ f ∈ Generated.targets folder g, t'.read? f.1 = some f.2 := by
    refine read?_of_writeAll hwritten (rooted_of_writeAll hroot hwritten) hchanges.working ?_ ?_
    · intro f hf
      refine hchanges.file (t.place f.1, f.2) ?_
      rw [← map_place_targets h hnames t folder]
      exact List.mem_map_of_mem hf
    · rw [targets_eq, List.forall_mem_map]
      exact fun y hy l hl => hchanges.folder l (List.mem_flatMap.mpr ⟨y, hy, hl⟩)
  rw [targets_eq, List.forall_mem_map] at hread
  exact hread x hx

end Generation

open Generation

variable {e : Error} {g : Generated} {ts : List Table}

theorem writeArtifacts_dry (g : Generated) (outputDir : String) (t : FileTree) :
    execute (writeArtifacts g outputDir true) t =
      (.ok ((Generated.targets outputDir g).map (·.1)), t) :=
  execute_writeArtifacts g outputDir true t

/-- The list of paths is the same whether the files are written or not. -/
theorem paths_of_writeArtifacts {outputDir : String} {paths : List String}
    (h : execute (writeArtifacts g outputDir false) t = (.ok paths, t')) :
    writeAll (Generated.targets outputDir g) t = (.ok (), t') ∧
      paths = (Generated.targets outputDir g).map (·.1) := by
  rw [execute_writeArtifacts] at h
  split at h
  case h_1 u hwritten =>
    cases h
    exact ⟨hwritten, rfl⟩
  case h_2 => cases h

/-- Only writing fails after generation, and only with the file system. -/
theorem error_of_writeArtifacts {outputDir : String} {dryRun : Bool}
    (h : execute (writeArtifacts g outputDir dryRun) t = (.error e, t')) :
    dryRun = false ∧ e = .file := by
  cases dryRun
  · rw [execute_writeArtifacts] at h
    split at h
    case h_1 => cases h
    case h_2 u hwritten =>
      cases h
      exact ⟨rfl, error_of_writeAll hwritten⟩
  · rw [writeArtifacts_dry] at h
    cases h

theorem run_error (h : execute s.run t = (.error e, t')) :
    t' = t ∨ s.dryRun = false ∧ e = .file ∧ ∃ g, generatedAt s t = .ok g ∧
      execute (writeArtifacts g s.outputDir false) t = (.error .file, t') := by
  rw [execute_run] at h
  split at h
  case h_1 e' _ =>
    cases h
    exact .inl rfl
  case h_2 g hg =>
    split at h
    case h_1 => cases h
    case h_2 e' u hwritten =>
      cases h
      obtain ⟨hdry, rfl⟩ := error_of_writeArtifacts hwritten
      rw [hdry] at hwritten
      exact .inr ⟨hdry, rfl, g, hg, hwritten⟩

/-- One table that cannot be generated keeps all files from being written. -/
theorem run_of_fault (hts : tablesAt t s.schemaFile = .ok ts)
    (h : Repeats (ts.filter (selects s ·.name)) ∨
      ∃ u ∈ ts.filter (selects s ·.name), ∃ f, u.fault? = some f) :
    ∃ e, execute s.run t = (.error e, t) := by
  have hgenerated : generatedAt s t = generate s (ts.filter (selects s ·.name)) := by
    rw [generatedAt, hts]
    rfl
  cases hg : generate s (ts.filter (selects s ·.name)) with
  | error e => exact ⟨e, by rw [execute_run, hgenerated, hg]⟩
  | ok g =>
    obtain ⟨hr, hsound, -⟩ := (ok_iff ordered_inOrder).mp hg
    rcases h with h | ⟨u, hu, f, hf⟩
    · exact absurd h hr
    · rw [hsound u hu] at hf
      contradiction

theorem run_ok (h : execute s.run t = (.ok g, t')) :
    generatedAt s t = .ok g ∧ ∃ paths,
      execute (writeArtifacts g s.outputDir s.dryRun) t = (.ok paths, t') := by
  rw [execute_run] at h
  split at h
  case h_1 => cases h
  case h_2 g' hg =>
    split at h
    case h_1 paths u hwritten =>
      cases h
      exact ⟨hg, paths, hwritten⟩
    case h_2 => cases h

theorem generate_of_generatedAt (h : generatedAt s t = .ok g) : ∃ ts, generate s ts = .ok g := by
  unfold generatedAt at h
  cases hts : tablesAt t s.schemaFile with
  | error e =>
    rw [hts] at h
    cases h
  | ok ts =>
    rw [hts] at h
    exact ⟨_, h⟩

theorem dry_run_of_ok {u : FileTree}
    (h : execute ({ s with dryRun := false } : Settings).run t = (.ok g, u)) :
    execute ({ s with dryRun := true } : Settings).run t = (.ok g, t) := by
  obtain ⟨hg, -⟩ := run_ok h
  have hgenerated : generatedAt { s with dryRun := true } t = .ok g := hg
  rw [execute_run, hgenerated]
  dsimp only
  rw [writeArtifacts_dry]

theorem run_dry (hdry : s.dryRun) : (execute s.run t).2 = t := by
  cases hrun : execute s.run t with
  | mk result u =>
    cases result with
    | error e =>
      rcases run_error hrun with heq | ⟨hno, -⟩
      · exact heq
      · rw [hdry] at hno
        contradiction
    | ok g =>
      obtain ⟨-, paths, hwritten⟩ := run_ok hrun
      rw [hdry, writeArtifacts_dry] at hwritten
      exact (Prod.ext_iff.mp hwritten).2.symm

/-- A run fails before it changes anything, unless a file cannot be written. Without writing it
gives what it would give otherwise, and lists the path of each artifact below the output folder.
What it does write is the text of each artifact in its place and the folders above it, and nothing
else changes. -/
theorem run_file_effects (s : Settings) (t : FileTree) :
    (∀ e t', execute s.run t = (.error e, t') → t' = t ∨
      s.dryRun = false ∧ e = .file ∧ ∃ g, generatedAt s t = .ok g ∧
        execute (writeArtifacts g s.outputDir false) t = (.error .file, t')) ∧
    (∀ ts, tablesAt t s.schemaFile = .ok ts →
      (Repeats (ts.filter (selects s ·.name)) ∨
        ∃ u ∈ ts.filter (selects s ·.name), ∃ f, u.fault? = some f) →
      ∃ e, execute s.run t = (.error e, t)) ∧
    (s.dryRun → (execute s.run t).2 = t) ∧
    (∀ g t', execute ({ s with dryRun := false } : Settings).run t = (.ok g, t') →
      let paths := (g.flatMap (·.artifacts)).map fun x => Path.below s.outputDir x.path
      execute ({ s with dryRun := true } : Settings).run t = (.ok g, t) ∧
        execute (writeArtifacts g s.outputDir false) t = (.ok paths, t') ∧
        execute (writeArtifacts g s.outputDir true) t = (.ok paths, t)) ∧
    ∀ g t', s.dryRun = false → execute s.run t = (.ok g, t') →
      (∀ a ∈ g, '/' ∉ a.table.toList ∧ a.table ≠ "." ∧ a.table ≠ "..") →
      let artifacts := g.flatMap (·.artifacts)
      let place := fun x : Artifact => t.place s.outputDir ++ Path.segments x.path
      (∀ x ∈ artifacts, t.place (Path.below s.outputDir x.path) = place x) ∧
      (artifacts.map place).Nodup ∧
      Changes t t' (artifacts.map fun x => (place x, x.text))
        (artifacts.flatMap fun x => t.above (Path.below s.outputDir x.path)) ∧
      (t.Rooted → ∀ a ∈ g, ∀ x ∈ a.artifacts,
        t'.read? (Path.below s.outputDir x.path) = some x.text) := by
  refine ⟨fun e t' => run_error, fun ts => run_of_fault, run_dry, fun g t' h => ?_, ?_⟩
  · obtain ⟨-, paths, hwritten⟩ := run_ok h
    obtain ⟨-, rfl⟩ := paths_of_writeArtifacts hwritten
    have hdry := writeArtifacts_dry g s.outputDir t
    rw [targets_eq, List.map_map] at hwritten hdry
    exact ⟨dry_run_of_ok h, hwritten, hdry⟩
  · intro g t' hdry h hnames artifacts place
    obtain ⟨hg, paths, hwritten⟩ := run_ok h
    rw [hdry] at hwritten
    obtain ⟨hall, -⟩ := paths_of_writeArtifacts hwritten
    obtain ⟨ts, hts⟩ := generate_of_generatedAt hg
    refine ⟨place_of_mem_artifacts hts hnames t s.outputDir, nodup_places hts hnames t s.outputDir,
      changes_of_targets hts hnames hall, fun hroot a ha x hx => ?_⟩
    exact read?_of_targets hts hnames hall hroot (List.mem_flatMap.mpr ⟨a, ha, hx⟩)

/-- A file system with nothing but a schema of one table. -/
def schemaTree : FileTree :=
  { entries := [(["t.json"], .file "[[\"T\",\"\",null,null,[[\"Id\",\"int\"]]]]")] }

def schemaSettings : Settings :=
  { schemaFile := "t.json", outputDir := "out", client := false }

theorem rooted_schemaTree : schemaTree.Rooted where
  working := node?_root schemaTree
  parent := by
    intro l r h
    by_cases hl : l = []
    · rw [hl, node?_root]
    · refine absurd ?_ h
      have hlong : l ++ [r] ≠ ["t.json"] := by
        intro heq
        have hlength := congrArg List.length heq
        have hpos := List.length_pos_iff.mpr hl
        rw [List.length_append, List.length_singleton, List.length_singleton] at hlength
        omega
      have hkey : ((l ++ [r]) == ["t.json"]) = false := by simpa using hlong
      rw [node?, if_neg (by simp), schemaTree, List.lookup_cons, hkey]
      rfl

/-- The table of that schema. -/
def idTable : Table := { name := "T", columns := [⟨"Id", "int", false, false⟩] }

theorem generatedAt_schemaTree :
    generatedAt schemaSettings schemaTree = .ok [artifactsOf schemaSettings idTable] := by
  have htables : tablesAt schemaTree "t.json" = .ok [idTable] := by decide +kernel
  have hselected : [idTable].filter (selects schemaSettings ·.name) = [idTable] := by
    decide +kernel
  rw [generatedAt, show schemaSettings.schemaFile = "t.json" from rfl, htables]
  change generate schemaSettings ([idTable].filter (selects schemaSettings ·.name)) = _
  rw [hselected]
  exact (ok_iff ordered_inOrder).mpr
    ⟨not_repeats_iff.mpr (List.nodup_singleton _), by decide +kernel, rfl⟩

theorem schema_files_written :
    ∃ m g t', Generation.model schemaSettings idTable = .ok m ∧
      execute schemaSettings.run schemaTree = (.ok g, t') ∧
      g.flatMap (·.paths) = ["T/Net/Config.cs", "T/Net/TEntity.cs", "T/Net/TAccess.cs",
        "T/Net/Services/ITService.cs", "T/Net/Services/TService.cs", "T/Net/TController.cs"] ∧
      (∀ a ∈ g, ∀ x ∈ a.artifacts, t'.read? (Path.below "out" x.path) = some x.text) ∧
      t'.read? "out/T/Net/TEntity.cs" = some (Step.print .ownLine (Backend.entity m)) := by
  have hmodel : Generation.model schemaSettings idTable = .ok (modelOf schemaSettings idTable) :=
    model_of_sound (by decide +kernel)
  have hdone : (execute schemaSettings.run schemaTree).1.isOk := by decide +kernel
  cases hrun : execute schemaSettings.run schemaTree with
  | mk result t' =>
    rw [hrun] at hdone
    cases result with
    | error e => contradiction
    | ok g =>
      obtain ⟨hg, -⟩ := run_ok hrun
      obtain rfl := Except.ok.inj (hg.symm.trans generatedAt_schemaTree)
      have hpaths : [artifactsOf schemaSettings idTable].flatMap (·.paths) = ["T/Net/Config.cs",
          "T/Net/TEntity.cs", "T/Net/TAccess.cs", "T/Net/Services/ITService.cs",
          "T/Net/Services/TService.cs", "T/Net/TController.cs"] := by
        rw [List.flatMap_singleton]
        decide +kernel
      have hentity : (⟨.entity, "T/Net/TEntity.cs",
          Step.print .ownLine (Backend.entity (modelOf schemaSettings idTable))⟩ : Artifact) ∈
            (artifactsOf schemaSettings idTable).artifacts := by
        refine List.mem_map.mpr ⟨.entity, by decide, ?_⟩
        have hpath : ArtifactKind.entity.path (modelOf schemaSettings idTable).names =
            "T/Net/TEntity.cs" := by decide +kernel
        rw [hpath]
        rfl
      have hnames : ∀ a ∈ [artifactsOf schemaSettings idTable],
          '/' ∉ a.table.toList ∧ a.table ≠ "." ∧ a.table ≠ ".." := by
        rw [List.forall_mem_singleton, table_artifactsOf]
        decide +kernel
      obtain ⟨-, -, -, -, hwritten⟩ := run_file_effects schemaSettings schemaTree
      have hread := (hwritten _ t' rfl hrun hnames).2.2.2 rooted_schemaTree
      rw [show schemaSettings.outputDir = "out" from rfl] at hread
      have hfile := hread _ (List.mem_singleton_self _) _ hentity
      have hbelow : Path.below "out" "T/Net/TEntity.cs" = "out/T/Net/TEntity.cs" := by
        decide +kernel
      rw [hbelow] at hfile
      exact ⟨_, _, t', hmodel, rfl, hpaths, hread, hfile⟩

end Scaffold
