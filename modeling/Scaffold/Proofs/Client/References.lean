import Scaffold.Proofs.Client.Plain
import Scaffold.Proofs.Files.Places
import Scaffold.Proofs.Model

/-! References between the client files of a table: each of them leads to another of the files. -/
namespace Scaffold

open FileTree

/-- The path of what a file refers to, from the folder that the file is in. -/
def Path.refer (file reference : String) : String :=
  "/".intercalate ((Path.segments reference).foldl onward (Path.segments file).dropLast)

def Path.isRelative (reference : String) : Bool :=
  (Path.segments reference).head? ∈ [some ".", some ".."]

theorem Path.isRelative_of_first {c : Char} (h : c ≠ '.') (cs : List Char) :
    isRelative (.ofList (c :: cs)) = false := by
  obtain ⟨w, hw, hfirst⟩ : ∃ w, (Text.pieces (· == '/') (c :: cs)).head? = some w ∧
      w.head? ≠ some '.' := by
    rw [Text.pieces]
    split
    · exact ⟨[], rfl, by simp⟩
    · obtain ⟨w, ws, hws⟩ := List.exists_cons_of_ne_nil (Text.pieces_ne_nil (· == '/') cs)
      rw [hws]
      exact ⟨c :: w, rfl, by simpa using h⟩
  have hhead : (segments (.ofList (c :: cs))).head? = some (.ofList w) := by
    rw [segments, Text.splitAt, String.toList_ofList, List.head?_map, hw]
    rfl
  have hother : ∀ v : List Char, v.head? = some '.' → String.ofList w ≠ String.ofList v :=
    fun v hv heq => hfirst (String.ofList_inj.mp heq ▸ hv)
  rw [isRelative, hhead]
  simpa using ⟨hother ['.'] rfl, hother ['.', '.'] rfl⟩

namespace ArtifactKind

variable {t : Table} {database : String} {k k' : ArtifactKind}

/-- The name of the file without the folders. -/
def fileName (t : Table) (k : ArtifactKind) : String :=
  k.fileFront t.name (Text.lower t.name) ++ k.ending

section

variable (hname : isName t.name) (hslash : '/' ∉ t.name.toList)

include hname hslash

theorem folder_path (k : ArtifactKind) (database : String) :
    (Path.segments (k.path (.ofTable t database))).dropLast =
      t.name :: k.folders (Text.lower t.name) := by
  rw [segments_path hname hslash, parts, List.dropLast_concat]

/-- A file in the same folder is referred to by its name. -/
theorem refer_beside (k' : ArtifactKind)
    (hfolders : k.folders (Text.lower t.name) = k'.folders (Text.lower t.name)) :
    Path.refer (k.path (.ofTable t database)) ("./" ++ k'.fileName t) =
      k'.path (.ofTable t database) := by
  obtain ⟨hfile, hsingle⟩ := parts_named hname hslash k' (k'.fileName t) (by simp [parts, fileName])
  have hreference : Path.segments ("./" ++ k'.fileName t) = [".", k'.fileName t] := by
    have hsegments := Path.segments_append_slash "." (k'.fileName t)
    rwa [Path.segments_of_no_slash hsingle] at hsegments
  rw [Path.refer, hreference, folder_path hname hslash, path_eq_intercalate, hfolders]
  have hskip : onward (t.name :: k'.folders (Text.lower t.name)) "." =
      t.name :: k'.folders (Text.lower t.name) := rfl
  rw [List.foldl_cons, hskip, List.foldl_cons, List.foldl_nil, onward_of_isName hfile, parts,
    fileName]

/-- Other files are referred to from the folder above. -/
theorem refer_above (k' : ArtifactKind) {folder : String} {rest : List String} (hrest : rest ≠ [])
    (hfolders : k.folders (Text.lower t.name) = ["Angular", folder])
    (hparts : k'.parts t.name = t.name :: "Angular" :: rest) :
    Path.refer (k.path (.ofTable t database)) ("../" ++ "/".intercalate rest) =
      k'.path (.ofTable t database) := by
  have hnamed : ∀ s ∈ rest, isName s ∧ '/' ∉ s.toList := fun s hs =>
    parts_named hname hslash k' s (by simp [hparts, hs])
  have hreference : Path.segments ("../" ++ "/".intercalate rest) = ".." :: rest := by
    have hsegments := Path.segments_append_slash ".." ("/".intercalate rest)
    rwa [Path.segments_intercalate hrest fun s hs => (hnamed s hs).2] at hsegments
  have hup : onward [t.name, "Angular", folder] ".." = [t.name, "Angular"] := rfl
  rw [Path.refer, hreference, folder_path hname hslash, path_eq_intercalate, hfolders, hparts,
    List.foldl_cons, hup, foldl_onward fun s hs => (hnamed s hs).1]
  rfl

end

/-- The file that is imported from, and that it exports the names imported from it. -/
def Leads (m : Model) (k : ArtifactKind) (i : Client.Import) : Prop :=
  ∃ k' ∈ client, k' ≠ k ∧ k'.path m.names = Path.refer (k.path m.names) (i.source ++ ".ts") ∧
    ∃ src, k'.source? m = some src ∧ ∀ name ∈ i.names, ∃ e ∈ src.exported, e.name = name

variable {m : Model}

theorem leads_of_external {names : List String} {c : Char} {cs : List Char} (h : c ≠ '.') :
    Path.isRelative (.ofList (c :: cs)) → Leads m k ⟨names, .ofList (c :: cs)⟩ := by
  rw [Path.isRelative_of_first h]
  exact fun hfalse => absurd hfalse Bool.false_ne_true

section

variable (hname : isName t.name) (hslash : '/' ∉ t.name.toList)
  (hm : m.names = .ofTable t m.database)

include hname hslash hm

theorem leads_service {folder : String}
    (hfolders : k.folders (Text.lower t.name) = ["Angular", folder]) (hne : clientService ≠ k) :
    Leads m k (Client.serviceImport m.names) := by
  have hreference : (Client.serviceImport m.names).source ++ ".ts" =
      "../" ++ "/".intercalate [Text.lower t.name ++ "-service", clientService.fileName t] := by
    rw [hm]
    refine String.toList_inj.mp ?_
    simp [Client.serviceImport, Names.ofTable, fileName, fileFront, ending, toString]
  refine ⟨clientService, by decide, hne, ?_, Client.service m, rfl, ?_⟩
  · rw [hreference, hm]
    exact (refer_above hname hslash clientService (by simp) hfolders rfl).symm
  · simp [Client.serviceImport, Client.service]

theorem leads_entity {folder : String}
    (hfolders : k.folders (Text.lower t.name) = ["Angular", folder]) (hne : clientInterface ≠ k) :
    Leads m k (Client.entityImport m.names) := by
  have hreference : (Client.entityImport m.names).source ++ ".ts" =
      "../" ++ "/".intercalate [clientInterface.fileName t] := by
    rw [hm]
    refine String.toList_inj.mp ?_
    simp [Client.entityImport, Names.ofTable, fileName, fileFront, ending, toString]
  refine ⟨clientInterface, by decide, hne, ?_, Client.interface m, rfl, ?_⟩
  · rw [hreference, hm]
    exact (refer_above hname hslash clientInterface (by simp) hfolders rfl).symm
  · simp [Client.entityImport, Client.interface]

theorem path_beside (k' : ArtifactKind) {reference : String}
    (hfolders : k.folders (Text.lower t.name) = k'.folders (Text.lower t.name))
    (hreference : reference.toList = ("./" ++ k'.fileName t).toList) :
    k'.path m.names = Path.refer (k.path m.names) reference := by
  rw [String.toList_inj.mp hreference, hm, refer_beside hname hslash k' hfolders]

omit hname hslash hm in
theorem mem_client_component (op : Operation) (part : ComponentPart) :
    component op part ∈ client := mem_client (by cases op <;> cases part <;> rfl)

theorem leads_shared {folder : String}
    (hfolders : k.folders (Text.lower t.name) = ["Angular", folder]) (hservice : clientService ≠ k)
    (hentity : clientInterface ≠ k) :
    ∀ i ∈ [Client.serviceImport m.names, Client.entityImport m.names],
      Path.isRelative i.source → Leads m k i :=
  List.forall_mem_cons.mpr ⟨fun _ => leads_service hname hslash hm hfolders hservice,
    List.forall_mem_singleton.mpr fun _ => leads_entity hname hslash hm hfolders hentity⟩

theorem leads_of_component (op : Operation) :
    ∀ i ∈ (Client.Component.source m op).imports.flatten,
      Path.isRelative i.source → Leads m (component op .code) i := by
  have hshared := leads_shared (k := component op .code) hname hslash hm rfl (by simp) (by simp)
  simp only [Client.Component.source, List.flatten_cons, List.flatten_nil, List.append_nil]
  cases op with
  | insert =>
    exact List.forall_mem_cons.mpr ⟨leads_of_external (by decide), hshared⟩
  | update | delete | get =>
    exact List.forall_mem_cons.mpr ⟨leads_of_external (by decide),
      List.forall_mem_cons.mpr ⟨leads_of_external (by decide), hshared⟩⟩

theorem leads_of_componentTest (op : Operation) :
    ∀ i ∈ (Client.Component.test m op).imports.flatten,
      Path.isRelative i.source → Leads m (component op .test) i := by
  have hmodules : ∀ i ∈ Client.Component.testModules op,
      Path.isRelative i.source → Leads m (component op .test) i := by
    cases op with
    | update =>
      exact List.forall_mem_cons.mpr ⟨leads_of_external (by decide),
        List.forall_mem_singleton.mpr (leads_of_external (by decide))⟩
    | insert | delete | get => exact List.forall_mem_singleton.mpr (leads_of_external (by decide))
  -- a test imports what it tests
  have htested : Leads m (component op .test)
      ⟨[m.names.componentClass op], "./" ++ m.names.componentStem op ++ ".component"⟩ := by
    refine ⟨component op .code, mem_client_component op .code, by simp,
      path_beside hname hslash hm _ rfl ?_, Client.Component.source m op, rfl,
      by simp [Client.Component.source]⟩
    simp [hm, Names.ofTable, Names.componentStem, fileName, fileFront, ending]
  simp only [Client.Component.test, List.flatten_cons, List.flatten_nil, List.append_nil,
    List.forall_mem_append, List.forall_mem_cons]
  exact ⟨⟨⟨leads_of_external (by decide), leads_of_external (by decide), by simp⟩,
    hmodules⟩, fun _ => htested, by simp⟩

/-- The relative imports of every client source lead to files that export what is imported. -/
theorem leads_of_relative {src : Client.Source} (hsrc : k.source? m = some src) :
    ∀ i ∈ src.imports.flatten, Path.isRelative i.source → Leads m k i := by
  cases k with
  | clientInterface =>
    obtain rfl := Option.some.inj hsrc
    simp [Client.interface]
  | clientService =>
    obtain rfl := Option.some.inj hsrc
    have hentity := leads_entity (k := clientService) hname hslash hm rfl (by decide)
    simp only [Client.service, List.flatten_cons, List.flatten_nil, List.append_nil,
      List.forall_mem_cons]
    exact ⟨leads_of_external (by decide), leads_of_external (by decide),
      leads_of_external (by decide), leads_of_external (by decide),
      fun _ => hentity, by simp⟩
  | clientServiceTest =>
    obtain rfl := Option.some.inj hsrc
    have htested : Leads m clientServiceTest
        ⟨[m.names.clientService], "./" ++ m.names.stem ++ ".service"⟩ := by
      refine ⟨clientService, by decide, by decide,
        path_beside hname hslash hm clientService rfl ?_, Client.service m, rfl,
        by simp [Client.service]⟩
      simp [hm, Names.ofTable, fileName, fileFront, ending]
    simp only [Client.serviceTest, List.flatten_cons, List.flatten_nil, List.append_nil,
      List.cons_append, List.nil_append, List.forall_mem_cons]
    exact ⟨leads_of_external (by decide), leads_of_external (by decide),
      fun _ => htested, by simp⟩
  | matTable =>
    obtain rfl := Option.some.inj hsrc
    have hshared := leads_shared (k := matTable) hname hslash hm rfl (by decide) (by decide)
    simp only [List.forall_mem_cons] at hshared
    simp only [Client.matTable, List.flatten_cons, List.flatten_nil, List.append_nil,
      List.forall_mem_cons]
    exact ⟨leads_of_external (by decide), leads_of_external (by decide),
      leads_of_external (by decide), hshared⟩
  | component op part =>
    cases part with
    | code =>
      obtain rfl := Option.some.inj hsrc
      exact leads_of_component hname hslash hm op
    | test =>
      obtain rfl := Option.some.inj hsrc
      exact leads_of_componentTest hname hslash hm op
    | markup | style => contradiction
  | _ => contradiction

/-- The resources of a component stand beside it. -/
theorem exists_resource {src : Client.Source} (hsrc : k.source? m = some src) :
    ∀ r ∈ src.decorator.resources, ∃ k' ∈ client, k' ≠ k ∧
      k'.path m.names = Path.refer (k.path m.names) r := by
  cases k with
  | matTable =>
    obtain rfl := Option.some.inj hsrc
    refine List.forall_mem_singleton.mpr ⟨matTableMarkup, by decide, by decide,
      path_beside hname hslash hm matTableMarkup rfl ?_⟩
    simp [hm, Names.ofTable, fileName, fileFront, ending, toString]
  | component op part =>
    cases part with
    | code =>
      obtain rfl := Option.some.inj hsrc
      refine List.forall_mem_cons.mpr ⟨⟨component op .markup, mem_client_component op .markup,
        by simp, path_beside hname hslash hm _ rfl ?_⟩, List.forall_mem_singleton.mpr
        ⟨component op .style, mem_client_component op .style, by simp,
          path_beside hname hslash hm _ rfl ?_⟩⟩
      all_goals
        simp [hm, Names.ofTable, Names.componentStem, fileName, fileFront, ending, toString]
    | test =>
      obtain rfl := Option.some.inj hsrc
      simp [Client.Component.test, Client.Decorator.resources]
    | markup | style => contradiction
  | clientInterface | clientService | clientServiceTest =>
    obtain rfl := Option.some.inj hsrc
    simp [Client.interface, Client.service, Client.serviceTest, Client.Decorator.resources]
  | _ => contradiction

end

end ArtifactKind

/-- Letters, digits and underscores. -/
def Text.isWordChar (c : Char) : Bool := isAlphanumeric c || c == '_'

def Text.IsWord (s : String) : Prop := ∀ c ∈ s.toList, isWordChar c

instance (s : String) : Decidable (Text.IsWord s) :=
  List.decidableBAll (fun c => Text.isWordChar c) s.toList

section

variable {s : String} {t : Table} {c : Char}

theorem Text.IsWord.not_mem (h : IsWord s) (hc : isWordChar c = false) : c ∉ s.toList := by
  intro hmem
  rw [h c hmem] at hc
  contradiction

theorem Text.IsWord.not_mem_lower (h : IsWord s) (hc : isWordChar c = false)
    (hascii : c.toNat < 0x80) : c ∉ (lower s).toList := by
  have hsmall : isAsciiLower c = false := by
    rw [Bool.eq_false_iff]
    intro hlower
    simp [isWordChar, isAlphanumeric, isAlphabetic, hascii, hlower] at hc
  intro hmem
  rcases mem_lower hmem with (hhigh | hlower) | ⟨hmem, -⟩
  · omega
  · simp [hsmall] at hlower
  · exact h.not_mem hc hmem

theorem unbroken_lower (h : Step.Unbroken s) : Step.Unbroken (Text.lower s) := by
  intro hmem
  rcases Text.mem_lower hmem with (hhigh | hlower) | ⟨hmem, -⟩
  · exact absurd hhigh (by decide)
  · exact absurd hlower (by decide)
  · exact h hmem

theorem marks_not_word : ∀ c ∈ Client.marks, Text.isWordChar c = false ∧ c.toNat < 0x80 := by
  simp only [Client.marks, List.forall_mem_cons]
  exact ⟨by decide, by decide, by decide, by decide, by decide, by decide, by simp⟩

theorem unmarked_of_isWord (h : Text.IsWord s) : Client.Unmarked s := fun c hc hmark =>
  h.not_mem (marks_not_word c hmark).1 hc

theorem unmarked_lower (h : Text.IsWord s) : Client.Unmarked (Text.lower s) := fun c hc hmark =>
  h.not_mem_lower (marks_not_word c hmark).1 (marks_not_word c hmark).2 hc

theorem isName_of_isWord (hsound : t.fault? = none) (h : Text.IsWord t.name) : isName t.name := by
  have hdot : '.' ∉ t.name.toList := h.not_mem (by decide)
  refine isName_of_sound hsound ?_ ?_
  all_goals
    intro heq
    rw [heq] at hdot
    exact hdot (by decide)

theorem plain_names (hsound : t.fault? = none) (hname : Text.IsWord t.name)
    (hentity : Text.IsWord t.entity) (database : String) : (Names.ofTable t database).Plain := by
  have hempty : t.name ≠ "" := by
    have hname := isName_of_isWord hsound hname
    rintro heq
    rw [heq] at hname
    contradiction
  have hentityName : t.entity ≠ "" := by
    unfold Table.entity
    split
    next e _ =>
      split
      next => exact hempty
      next h => simpa using h
    next => exact hempty
  have hnamed : Client.Named t.name := ⟨hempty, unmarked_of_isWord hname⟩
  exact {
    entity := ⟨hentityName, unmarked_of_isWord hentity⟩
    stem := unmarked_lower hname
    clientService := hnamed.append (by decide)
    serviceVariable := Client.unmarked_append.mpr ⟨unmarked_lower hname, by decide⟩
    route := hnamed.2
    matTableClass := hnamed.append (by decide) }

end

namespace ArtifactKind

open Client (importsOf resourcesOf exportsOf)
open Step (Unbroken)

variable {m : Model} {k : ArtifactKind} {src : Client.Source}

theorem text_of_source (hsrc : k.source? m = some src) : k.text m = src.text := by
  cases k
  case component op part =>
    cases part
    case code | test =>
      obtain rfl := Option.some.inj hsrc
      rfl
    all_goals contradiction
  case clientInterface | clientService | clientServiceTest | matTable =>
    obtain rfl := Option.some.inj hsrc
    rfl
  all_goals contradiction

theorem readable_of_source (h : m.names.Plain) (hsrc : k.source? m = some src) : src.Readable := by
  cases k with
  | clientInterface => exact Option.some.inj hsrc ▸ Client.readable_interface h
  | clientService => exact Option.some.inj hsrc ▸ Client.readable_service h
  | clientServiceTest => exact Option.some.inj hsrc ▸ Client.readable_serviceTest h
  | matTable => exact Option.some.inj hsrc ▸ Client.readable_matTable h
  | component op part =>
    cases part with
    | code => exact Option.some.inj hsrc ▸ Client.Component.readable_source h op
    | test => exact Option.some.inj hsrc ▸ Client.Component.readable_test h op
    | markup | style => contradiction
  | _ => contradiction

theorem unbroken_of_source (h : m.names.Plain) (hfields : ∀ c ∈ m.columns, Unbroken c.field)
    (hsrc : k.source? m = some src) : Step.AllLines Unbroken src.steps := by
  cases k with
  | clientInterface => exact Option.some.inj hsrc ▸ Client.unbroken_interface h hfields
  | clientService => exact Option.some.inj hsrc ▸ Client.unbroken_service h
  | clientServiceTest => exact Option.some.inj hsrc ▸ Client.unbroken_serviceTest h
  | matTable => exact Option.some.inj hsrc ▸ Client.unbroken_matTable h hfields
  | component op part =>
    cases part with
    | code => exact Option.some.inj hsrc ▸ Client.Component.unbroken_source h op
    | test => exact Option.some.inj hsrc ▸ Client.Component.unbroken_test h op
    | markup | style => contradiction
  | _ => contradiction

/-- Markup and style sheets begin with a tag or a comment. -/
theorem nothing_read (h : m.names.Plain) (hclient : k.isBackend = false)
    (hsrc : k.source? m = none) : importsOf (k.text m) = [] ∧ resourcesOf (k.text m) = [] := by
  have hstem := h.stem.unbroken
  cases k with
  | matTableMarkup =>
    exact Client.nothing_read (Step.unbroken_ofList (by decide)) rfl (by decide) _
  | component op part =>
    cases part with
    | markup =>
      cases op with
      | insert =>
        exact Client.nothing_read (Step.unbroken_ofList (by decide)) rfl (by decide) _
      | update | delete | get =>
        refine Client.nothing_read (c := '<') ?_ ?_ (by decide) _
        · simp only [toString, Step.unbroken_append, hstem, and_true]
          and_intros <;> exact Step.unbroken_ofList (by decide)
        · simp [toString]
    | style =>
      have hstem := (Client.Component.unmarked_componentStem h op).unbroken
      refine Client.nothing_read (c := '/') ?_ ?_ (by decide) _
      · simp only [toString, Step.unbroken_append, hstem, and_true]
        and_intros <;> exact Step.unbroken_ofList (by decide)
      · simp [toString]
    | code | test => contradiction
  | _ => contradiction

/-- All imports of the source. -/
def imports (m : Model) (k : ArtifactKind) : List Client.Import :=
  ((k.source? m).map (·.imports.flatten)).getD []

def resources (m : Model) (k : ArtifactKind) : List String :=
  ((k.source? m).map (·.decorator.resources)).getD []

theorem exists_source_of_mem_imports {i : Client.Import} (h : i ∈ k.imports m) :
    ∃ src, k.source? m = some src ∧ i ∈ src.imports.flatten := by
  rw [imports] at h
  cases hsrc : k.source? m with
  | none => simp [hsrc] at h
  | some src => exact ⟨src, rfl, by simpa [hsrc] using h⟩

theorem exists_source_of_mem_resources {r : String} (h : r ∈ k.resources m) :
    ∃ src, k.source? m = some src ∧ r ∈ src.decorator.resources := by
  rw [resources] at h
  cases hsrc : k.source? m with
  | none => simp [hsrc] at h
  | some src => exact ⟨src, rfl, by simpa [hsrc] using h⟩

theorem read_text (h : m.names.Plain) (hclient : k.isBackend = false) :
    importsOf (k.text m) = k.imports m ∧ resourcesOf (k.text m) = k.resources m := by
  rw [imports, resources]
  cases hsrc : k.source? m with
  | none => exact nothing_read h hclient hsrc
  | some src =>
    have hreadable := readable_of_source h hsrc
    rw [text_of_source hsrc]
    exact ⟨Client.Source.importsOf_text hreadable, Client.Source.resourcesOf_text hreadable⟩

theorem filterMap_text (h : m.names.Plain) (hfields : ∀ c ∈ m.columns, Unbroken c.field)
    (hsome : (k.source? m).isSome) :
    (Text.splitAt '\n' (k.text m)).filterMap Client.Import.ofLine? = importsOf (k.text m) := by
  obtain ⟨src, hsrc⟩ := Option.isSome_iff_exists.mp hsome
  have hreadable := readable_of_source h hsrc
  rw [text_of_source hsrc, Client.Source.importsOf_text hreadable]
  exact Client.Source.filterMap_text hreadable (unbroken_of_source h hfields hsrc)

end ArtifactKind

namespace TableArtifacts

theorem mem_artifacts_of_client {k : ArtifactKind} (m : Model) (backend : Bool)
    (hk : k ∈ ArtifactKind.client) : ⟨k, k.path m.names, k.text m⟩ ∈ (ofModel m backend true).artifacts :=
  List.mem_map.mpr ⟨k, List.mem_append_right _ hk, rfl⟩

end TableArtifacts

namespace Client

open Step (Unbroken)

variable {t : Table} {database : String} {b : ParamBudget} {m : Model}

theorem unbroken_fields (h : Model.build t database b = .ok m)
    (hcolumns : ∀ c ∈ t.columns, Unbroken c.name) : ∀ c ∈ m.columns, Unbroken c.field := by
  intro c hc
  rw [Model.columns_of_build h] at hc
  obtain ⟨column, hcolumn, rfl⟩ := List.mem_map.mp hc
  exact unbroken_lower (hcolumns column hcolumn)

/-- Among the files of a table with plain names every relative import at the head of a client file
leads to another client file that exports the imported names, and every template and style sheet to
another client file. What is read from the texts are the imports and resources of their sources, and
no other line is an import unless the name of a column breaks its line. -/
theorem references_resolve (h : Model.build t database b = .ok m) (hname : Text.IsWord t.name)
    (hentity : Text.IsWord t.entity) (backend : Bool) :
    let files := (TableArtifacts.ofModel m backend true).artifacts
    ∀ a ∈ files, a.kind ∈ ArtifactKind.client →
      (∀ i ∈ importsOf a.text, Path.isRelative i.source → ∃ target ∈ files,
        target.kind ∈ ArtifactKind.client ∧ target ≠ a ∧
          target.path = Path.refer a.path (i.source ++ ".ts") ∧
          ∀ name ∈ i.names, name ∈ exportsOf target.text) ∧
      (∀ r ∈ resourcesOf a.text, ∃ target ∈ files,
        target.kind ∈ ArtifactKind.client ∧ target ≠ a ∧ target.path = Path.refer a.path r) ∧
      importsOf a.text = a.kind.imports m ∧ resourcesOf a.text = a.kind.resources m ∧
      ((∀ c ∈ t.columns, Unbroken c.name) → (a.kind.source? m).isSome →
        (Text.splitAt '\n' a.text).filterMap Import.ofLine? = importsOf a.text) := by
  intro files a ha hclient
  obtain ⟨hsound, hm⟩ := Model.build_eq_ok_iff.mp h
  have hnames : m.names = .ofTable t m.database := by rw [← hm]; rfl
  have hplain : m.names.Plain := hnames ▸ plain_names hsound hname hentity m.database
  have hfolder := isName_of_isWord hsound hname
  have hslash : '/' ∉ t.name.toList := hname.not_mem (by decide)
  have hside : ∀ k ∈ ArtifactKind.client, k.isBackend = false := by decide
  obtain ⟨k, -, rfl⟩ := List.mem_map.mp ha
  have hdifferent : ∀ k' : ArtifactKind, k' ≠ k →
      (⟨k', k'.path m.names, k'.text m⟩ : Artifact) ≠ ⟨k, k.path m.names, k.text m⟩ :=
    fun k' hne heq => hne (congrArg Artifact.kind heq)
  obtain ⟨himports, hresources⟩ := ArtifactKind.read_text hplain (hside k hclient)
  refine ⟨?_, ?_, himports, hresources, ?_⟩
  · intro i hi hrelative
    obtain ⟨src, hsrc, hi⟩ := ArtifactKind.exists_source_of_mem_imports (himports ▸ hi)
    obtain ⟨k', hk', hne, hpath, src', hsrc', hexported⟩ :=
      ArtifactKind.leads_of_relative hfolder hslash hnames hsrc i hi hrelative
    refine ⟨_, TableArtifacts.mem_artifacts_of_client m backend hk', hk', hdifferent k' hne, hpath,
      fun name hmem => ?_⟩
    obtain ⟨e, he, rfl⟩ := hexported name hmem
    change e.name ∈ exportsOf (k'.text m)
    rw [ArtifactKind.text_of_source hsrc']
    exact Source.mem_exportsOf_text (ArtifactKind.readable_of_source hplain hsrc') he
  · intro r hr
    obtain ⟨src, hsrc, hr⟩ := ArtifactKind.exists_source_of_mem_resources (hresources ▸ hr)
    obtain ⟨k', hk', hne, hpath⟩ :=
      ArtifactKind.exists_resource hfolder hslash hnames hsrc r hr
    exact ⟨_, TableArtifacts.mem_artifacts_of_client m backend hk', hk', hdifferent k' hne, hpath⟩
  · exact fun hcolumns => ArtifactKind.filterMap_text hplain (unbroken_fields h hcolumns)

/-- The update component of a table reads the table's service from the folder beside its own. -/
theorem user_service_found :
    ∃ m, Model.build Model.userTable "Main" ⟨1000, 4, .compatible⟩ = .ok m ∧
      ∃ target ∈ (TableArtifacts.ofModel m false true).artifacts,
        target.path = "Users/Angular/users-service/users.service.ts" ∧
        "UsersService" ∈ exportsOf target.text := by
  have hm := Model.build_userTable "Main" ⟨1000, 4, .compatible⟩
  generalize hmodel : Model.derived Model.userTable "Main" ⟨1000, 4, .compatible⟩ = m at hm
  have hnames : m.names = .ofTable Model.userTable "Main" := by
    rw [← hmodel]
    rfl
  have hmem := ArtifactKind.mem_client_component .update .code
  obtain ⟨himports, -, hread, -⟩ := references_resolve hm (by decide +kernel) (by decide +kernel)
    false _ (TableArtifacts.mem_artifacts_of_client m false hmem) hmem
  have hservice : serviceImport m.names ∈
      importsOf ((ArtifactKind.component .update .code).text m) := by
    refine hread ▸ ?_
    have hlisted : serviceImport m.names ∈ Component.imports m .update :=
      List.mem_cons_of_mem _ (List.mem_cons_of_mem _ List.mem_cons_self)
    simpa [ArtifactKind.imports, ArtifactKind.source?, Component.source] using hlisted
  rw [hnames] at hservice himports
  obtain ⟨target, htarget, -, -, hpath, hexports⟩ := himports _ hservice (by decide +kernel)
  refine ⟨m, hm, target, htarget, ?_, ?_⟩
  · have hplace : Path.refer
        ((ArtifactKind.component .update .code).path (.ofTable Model.userTable "Main"))
        ((serviceImport (.ofTable Model.userTable "Main")).source ++ ".ts") =
          "Users/Angular/users-service/users.service.ts" := by decide +kernel
    exact hpath.trans hplace
  · exact hexports "UsersService" (by decide +kernel)

/-- The name of the second column ends the interface of the entity and goes on with an import. -/
def importingTable : Table :=
  { name := "Users"
    columns := [⟨"Id", "int", true, false⟩,
      ⟨"a: string;\n\x7d\nimport \x7b x \x7d from './nowhere';\nexport interface b \x7b\n  c",
        "nvarchar", false, false⟩] }

/-- The name stands in the text of the interface as it is, and its import leads to no file. -/
theorem column_name_imports :
    ∃ m, Model.build importingTable "Main" {} = .ok m ∧
      Text.IsWord importingTable.name ∧ Text.IsWord importingTable.entity ∧
      ∃ a ∈ (TableArtifacts.ofModel m false true).artifacts, a.kind ∈ ArtifactKind.client ∧
        ∃ i ∈ (Text.splitAt '\n' a.text).filterMap Import.ofLine?, Path.isRelative i.source ∧
          ∀ target ∈ (TableArtifacts.ofModel m false true).artifacts,
            target.path ≠ Path.refer a.path (i.source ++ ".ts") := by
  have hm : Model.build importingTable "Main" {} = .ok _ :=
    Model.build_eq_ok_iff.mpr ⟨by decide +kernel, rfl⟩
  let line := "import \x7b x \x7d from './nowhere';"
  have htext : (interface (Model.derived importingTable "Main" {})).text =
      "export interface Users \x7b\n  id: number;\n  a: string;\n\x7d" ++ "\n" ++
        (line ++ "\n" ++ "export interface b \x7b\n  c: string;\n\x7d\n") := by
    decide +kernel
  have hline : line ∈ Text.splitAt '\n'
      (interface (Model.derived importingTable "Main" {})).text := by
    have hself : Text.splitAt '\n' line = [line] :=
      Text.splitAt_of_not_mem (Step.unbroken_ofList (by decide))
    rw [htext, Text.splitAt_append rfl, Text.splitAt_append rfl, hself]
    simp
  refine ⟨_, hm, by decide +kernel, by decide +kernel, _,
    TableArtifacts.mem_artifacts_of_client _ false (k := .clientInterface) (by decide), by decide,
    ⟨["x"], "./nowhere"⟩, List.mem_filterMap.mpr ⟨line, hline, by decide +kernel⟩,
    by decide +kernel, ?_⟩
  simp only [TableArtifacts.ofModel, List.forall_mem_map]
  decide +kernel

end Client

end Scaffold
