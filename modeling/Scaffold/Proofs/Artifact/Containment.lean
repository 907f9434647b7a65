import Scaffold.Proofs.Files.Containment
import Scaffold.Proofs.Run

/-! Whether artifacts stay below the output folder: that depends on the names of their tables. -/
namespace Scaffold

open FileTree

namespace Text

theorem lowerChar_ne_nil (c : Char) : lowerChar c ≠ [] := by
  unfold lowerChar
  split
  · simp
  · split <;> simp

/-- Each character gives one or more. Those that mean something in a path stand for themselves. -/
theorem lowerAfter_cons (before : List Char) (c : Char) (cs : List Char) :
    ∃ l, lowerAfter before (c :: cs) = l ++ lowerAfter (c :: before) cs ∧ l ≠ [] ∧
      ∀ d, d = '/' ∨ d = '.' → (c = d → l = [d]) ∧ (c ≠ d → d ∉ l) := by
  refine ⟨_, by rw [lowerAfter], ?_, ?_⟩
  · split
    · simp
    · exact lowerChar_ne_nil c
  · intro d hd
    constructor
    · rintro rfl
      rcases hd with rfl | rfl <;> rfl
    · intro hne hmem
      split at hmem
      · obtain rfl := List.mem_singleton.mp hmem
        revert hd
        split <;> decide
      · rcases mem_lowerChar hmem with hlower | ⟨heq, -⟩
        · rcases hd with rfl | rfl <;> exact absurd hlower (by unfold IsLowered; decide)
        · exact hne heq.symm

end Text

namespace Path

variable {p q e : String} {depth : Nat}

theorem forall₂_modifyHead {α : Type} {r : α → α → Prop} {f g : α → α} {xs ys : List α}
    (h : List.Forall₂ r xs ys) (hfg : ∀ x y, r x y → r (f x) (g y)) :
    List.Forall₂ r (xs.modifyHead f) (ys.modifyHead g) := by
  cases h with
  | nil => exact .nil
  | cons hxy hrest => exact .cons (hfg _ _ hxy) hrest

/-- A segment that is another one or a name. -/
def Raises (s r : String) : Prop := r = s ∨ isName r

/-- Every segment of the second path raises the one of the first. -/
def Raised (p q : String) : Prop := List.Forall₂ Raises (segments p) (segments q)

/-- The same for characters. -/
def RaisedChars (cs ds : List Char) : Prop :=
  List.Forall₂ (fun w v => Raises (.ofList w) (.ofList v)) (Text.pieces (· == '/') cs)
    (Text.pieces (· == '/') ds)

theorem raised_iff : Raised p q ↔ RaisedChars p.toList q.toList := by
  unfold Raised RaisedChars segments Text.splitAt
  rw [List.forall₂_map_left_iff, List.forall₂_map_right_iff]

theorem Raised.stays (h : Raised p q) (hp : FileTree.stays 0 (segments p)) :
    FileTree.stays 0 (segments q) :=
  stays_of_forall₂ h le_rfl hp

theorem isName_ofList_iff {v : List Char} :
    isName (.ofList v) ↔ v ≠ [] ∧ v ≠ ['.'] ∧ v ≠ ['.', '.'] := by
  simp [isName, ← String.toList_inj]

theorem isName_ofList_cons {v : List Char} (h : isName (.ofList v)) (c : Char) :
    isName (.ofList (c :: v)) := by
  rw [isName_ofList_iff] at h ⊢
  obtain ⟨hne, hdot, -⟩ := h
  refine ⟨by simp, fun heq => hne (List.cons.inj heq).2, fun heq => hdot (List.cons.inj heq).2⟩

theorem raises_cons {w v : List Char} (h : Raises (.ofList w) (.ofList v)) (c : Char) :
    Raises (.ofList (c :: w)) (.ofList (c :: v)) := by
  rcases h with heq | hname
  · rw [String.ofList_inj] at heq
    exact .inl (by rw [heq])
  · exact .inr (isName_ofList_cons hname c)

theorem raisedChars_append {es : List Char} (hslash : '/' ∉ es) (hname : isName (.ofList es))
    (cs : List Char) : RaisedChars cs (cs ++ es) := by
  unfold RaisedChars
  induction cs with
  | nil =>
    have hnone : ∀ c ∈ es, (c == '/') = false := fun c hc => by
      simpa using ne_of_mem_of_not_mem hc hslash
    rw [List.nil_append, Text.pieces_of_none hnone]
    exact .cons (.inr hname) .nil
  | cons c cs ih =>
    rw [List.cons_append]
    by_cases hc : c = '/'
    · rw [Text.pieces, Text.pieces, if_pos (by simpa using hc), if_pos (by simpa using hc)]
      exact .cons (.inl rfl) ih
    · rw [Text.pieces_cons_of_not (by simpa using hc), Text.pieces_cons_of_not (by simpa using hc)]
      exact forall₂_modifyHead ih fun w v h => raises_cons h c

theorem raisedChars_lowerAfter (before cs : List Char) :
    RaisedChars cs (Text.lowerAfter before cs) := by
  unfold RaisedChars
  induction cs generalizing before with
  | nil => exact .cons (.inl rfl) .nil
  | cons c cs ih =>
    obtain ⟨l, heq, hne, hkeep⟩ := Text.lowerAfter_cons before c cs
    obtain ⟨hslash, hother⟩ := hkeep '/' (.inl rfl)
    obtain ⟨hdot, hname⟩ := hkeep '.' (.inr rfl)
    rw [heq]
    by_cases hc : c = '/'
    · rw [hslash hc, List.singleton_append, Text.pieces, Text.pieces, if_pos (by simpa using hc),
        if_pos (by rfl)]
      exact .cons (.inl rfl) (ih _)
    have hnone : ∀ d ∈ l, (d == '/') = false := fun d hd => by
      simpa using ne_of_mem_of_not_mem hd (hother hc)
    rw [Text.pieces_cons_of_not (by simpa using hc), Text.pieces_append_of_none hnone]
    refine forall₂_modifyHead (ih _) fun w v h => ?_
    by_cases hc' : c = '.'
    · rw [hdot hc', hc']
      exact raises_cons h '.'
    · -- what a character other than a dot becomes makes a name of any segment
      obtain ⟨d, rest, rfl⟩ := List.exists_cons_of_ne_nil hne
      have hd : d ≠ '.' := fun hd => hname hc' (hd ▸ List.mem_cons_self)
      refine .inr (isName_ofList_iff.mpr ?_)
      simp [hd]

theorem raised_append (hslash : '/' ∉ e.toList) (hname : isName e) (p : String) :
    Raised p (p ++ e) := by
  rw [raised_iff, String.toList_append]
  exact raisedChars_append hslash (by rwa [String.ofList_toList]) _

theorem raised_lower (p : String) : Raised p (Text.lower p) := by
  rw [raised_iff, Text.lower, String.toList_ofList]
  exact raisedChars_lowerAfter [] p.toList

/-- A letter in front makes a name of the first segment. -/
theorem raised_letter (p : String) : Raised p ("I" ++ p) := by
  have hletter : ("I" ++ p).toList = 'I' :: p.toList := by simp
  rw [raised_iff, hletter, RaisedChars, Text.pieces_cons_of_not (by decide)]
  cases hpieces : Text.pieces (· == '/') p.toList with
  | nil => exact .nil
  | cons w ws =>
    exact .cons (.inr (isName_ofList_iff.mpr (by simp))) (List.forall₂_same.mpr fun _ _ => .inl rfl)

end Path

namespace FileTree

variable {e : String}

theorem baseName_append (h : '/' ∉ e.toList) (p : String) : ∃ w, baseName (p ++ e) = w ++ e := by
  have hnone : ∀ c ∈ e.toList, (c == '/') = false := fun c hc => by
    simpa using ne_of_mem_of_not_mem hc h
  obtain ⟨ws, w, heq⟩ := Text.exists_pieces_append hnone p.toList
  refine ⟨.ofList w, ?_⟩
  rw [baseName, Path.segments, Text.splitAt, String.toList_append, heq, List.map_append,
    List.map_singleton, List.getLast?_concat, Option.getD_some, String.ofList_append,
    String.ofList_toList]

end FileTree

namespace ArtifactKind

variable {name : String}

theorem segments_path_eq_flatMap (k : ArtifactKind) (t : Table) (database : String) :
    Path.segments (k.path (.ofTable t database)) = (k.parts t.name).flatMap Path.segments := by
  rw [path_eq_intercalate]
  exact Text.splitAt_intercalate_eq_flatMap rfl (by simp [parts])

theorem isName_of_any {e : String} (h : e.toList.any (· != '.')) : isName e := by
  have happend := isName_append (s := "") h
  rwa [String.empty_append] at happend

/-- Parts of a path that do not come from the name of the table. -/
def fixedParts : List String := ["Net", "Services", "Angular", "Config.cs"]

/-- What holds of the name of a table, and of whatever raises such a path, holds of all parts. -/
theorem parts_of_raised {P : String → Prop}
    (hraised : ∀ {p q : String}, Path.Raised p q → P p → P q) (hfixed : ∀ s ∈ fixedParts, P s)
    (h : P name) (k : ArtifactKind) : ∀ s ∈ k.parts name, P s := by
  have happend : ∀ {p e : String}, ('/' ∉ e.toList ∧ e.toList.any (· != '.')) →
      P p → P (p ++ e) := fun he => hraised (Path.raised_append he.1 (isName_of_any he.2) _)
  have hstem : P (Text.lower name) := hraised (Path.raised_lower name) h
  have hnet : P "Net" := hfixed _ (by decide)
  have hservices : P "Services" := hfixed _ (by decide)
  have hangular : P "Angular" := hfixed _ (by decide)
  have hfolders : ∀ s ∈ k.folders (Text.lower name), P s := by
    cases k with
    | component op part =>
      have hop : op ∈ Operation.all := by cases op <;> decide
      simpa [folders, hangular] using happend (words_named op hop) hstem
    | clientService | clientServiceTest =>
      simpa [folders, hangular] using happend (e := "-service") (by decide) hstem
    | matTableMarkup | matTable =>
      simpa [folders, hangular] using happend (e := "-mat-table") (by decide) hstem
    | config | entity | access | controller => simpa [folders] using hnet
    | serviceInterface | service => simpa [folders, hnet] using hservices
    | clientInterface => simpa [folders] using hangular
  have hfile : P (k.fileFront name (Text.lower name) ++ k.ending) := by
    have hending := endings_named k (mem_all k)
    cases k with
    | config =>
      rw [fileFront, ending, String.empty_append]
      exact hfixed _ (by decide)
    | serviceInterface => exact happend hending (hraised (Path.raised_letter name) h)
    | entity | access | service | controller => exact happend hending h
    | clientInterface =>
      rw [fileFront, ending, String.append_assoc]
      exact happend (by decide) hstem
    | _ => exact happend hending hstem
  intro s hs
  rw [parts, List.mem_append, List.mem_cons, List.mem_singleton] at hs
  rcases hs with (rfl | hs) | rfl
  · exact h
  · exact hfolders s hs
  · exact hfile

/-- Where the name of the table stays, so does each part of the path. -/
theorem stays_parts (h : stays 0 (Path.segments name)) (k : ArtifactKind) :
    ∀ s ∈ k.parts name, stays 0 (Path.segments s) :=
  parts_of_raised (P := fun p => stays 0 (Path.segments p)) Path.Raised.stays (by decide) h k

theorem stays_path_iff (k : ArtifactKind) (t : Table) (database : String) :
    stays 0 (Path.segments (k.path (.ofTable t database))) ↔ stays 0 (Path.segments t.name) := by
  rw [segments_path_eq_flatMap]
  constructor
  · intro h
    rw [parts, List.cons_append, List.flatMap_cons] at h
    exact stays_of_append h
  · exact fun h => stays_flatMap (stays_parts h k)

theorem isName_baseName_path (k : ArtifactKind) (t : Table) (database : String) :
    isName (baseName (k.path (.ofTable t database))) := by
  obtain ⟨hslash, hdot⟩ := endings_named k (mem_all k)
  have hsuffix : k.ending.toList <:+ (k.path (.ofTable t database)).toList := ending_suffix_path k
  obtain ⟨front, hfront⟩ := hsuffix
  have hpath : k.path (.ofTable t database) = .ofList front ++ k.ending :=
    String.toList_inj.mp (by simp [← hfront])
  obtain ⟨w, hw⟩ := baseName_append hslash (.ofList front)
  rw [hpath, hw]
  exact isName_append hdot

end ArtifactKind

namespace Generation

variable {s : Settings} {ts : List Table} {g : Generated}

theorem mem_targets_iff {folder : String} {f : String × String} :
    f ∈ Generated.targets folder g ↔
      ∃ a ∈ g, ∃ x ∈ a.artifacts, (Path.below folder x.path, x.text) = f := by
  simp [Generated.targets, TableArtifacts.targets]

/-- What a path of an artifact says on how far up it leads. -/
theorem stays_of_mem_artifacts {parallel : Gatherer} (h : parallel.Ordered)
    (hg : generateWith parallel s ts = .ok g) {a : TableArtifacts} (ha : a ∈ g) {x : Artifact}
    (hx : x ∈ a.artifacts) :
    isName (baseName x.path) ∧
      (stays 0 (Path.segments x.path) ↔ stays 0 (Path.segments a.table)) := by
  obtain ⟨hr, -, rfl⟩ := (ok_iff h).mp hg
  have hperm := Keyed.ofList_perm (nodup_tables s hr)
  obtain ⟨u, -, rfl⟩ := List.mem_map.mp (hperm.mem_iff.mp ha)
  have hpath : x.path ∈ (artifactsOf s u).paths := List.mem_map_of_mem hx
  rw [paths_artifactsOf] at hpath
  obtain ⟨k, -, hk⟩ := List.mem_map.mp hpath
  rw [← hk, names_modelOf, ArtifactKind.stays_path_iff, table_artifactsOf, name_qualified]
  exact ⟨ArtifactKind.isName_baseName_path k _ _, Iff.rfl⟩

theorem paths_of_execute {folder : String} {dry : Bool} {t t' : FileTree} {paths : List String}
    (h : execute (writeArtifacts g folder dry) t = (.ok paths, t')) :
    paths = (Generated.targets folder g).map (·.1) := by
  cases dry with
  | false => exact (paths_of_writeArtifacts h).2
  | true =>
    rw [writeArtifacts_dry] at h
    cases h
    rfl

/-- The paths that are written, or listed, lie strictly below the output folder, whatever folder
that is, exactly if no table with artifacts has a name whose segments lead further up than they
lead down before. -/
theorem written_below_iff {parallel : Gatherer} (h : parallel.Ordered)
    (hg : generateWith parallel s ts = .ok g) :
    (∀ folder dry t t' paths, execute (writeArtifacts g folder dry) t = (.ok paths, t') →
      paths = (Generated.targets folder g).map (·.1)) ∧
    ((∀ (t : FileTree) (folder : String), ∀ f ∈ Generated.targets folder g,
        t.StrictlyBelow folder f.1) ↔
      ∀ a ∈ g, a.artifacts ≠ [] → stays 0 (Path.segments a.table)) := by
  refine ⟨fun folder dry t t' paths => paths_of_execute, fun hbelow a ha hne => ?_,
    fun hstays t folder f hf => ?_⟩
  · obtain ⟨x, hx⟩ := List.exists_mem_of_ne_nil _ hne
    rw [← (stays_of_mem_artifacts h hg ha hx).2]
    by_contra hup
    obtain ⟨folder, hnot⟩ := exists_not_strictlyBelow (Bool.eq_false_iff.mpr hup)
    have htarget : (Path.below folder x.path, x.text) ∈ Generated.targets folder g :=
      mem_targets_iff.mpr ⟨a, ha, x, hx, rfl⟩
    have hlies := hbelow {} folder _ htarget
    exact hnot hlies
  · obtain ⟨a, ha, x, hx, rfl⟩ := mem_targets_iff.mp hf
    obtain ⟨hname, hiff⟩ := stays_of_mem_artifacts h hg ha hx
    exact strictlyBelow_of_stays hname (hiff.mpr (hstays a ha (List.ne_nil_of_mem hx))) t folder

/-- A table that is called like the folder above the output folder. -/
def parentTable : Table := { Model.userTable with name := ".." }

theorem generate_single {t : Table} (h : t.fault? = none) :
    generate s [t] = .ok [artifactsOf s t] :=
  (ok_iff ordered_inOrder).mpr ⟨not_repeats_iff.mpr (List.nodup_singleton _),
    by simpa using h, rfl⟩

/-- A name that leads into a folder and out of it again stays below. -/
theorem users_below :
    ∃ g, generate {} [{ Model.userTable with name := "Users/../People" }] = .ok g ∧
      ∀ (t : FileTree) (folder : String), ∀ f ∈ Generated.targets folder g,
        t.StrictlyBelow folder f.1 := by
  have hg := generate_single (s := {}) (t := { Model.userTable with name := "Users/../People" })
    (by decide +kernel)
  refine ⟨_, hg, (written_below_iff ordered_inOrder hg).2.mpr ?_⟩
  intro a ha _
  obtain rfl := List.mem_singleton.mp ha
  rw [table_artifactsOf]
  decide +kernel

theorem parent_table_escapes :
    ∃ g, generate {} [parentTable] = .ok g ∧
      "out/../Net/Config.cs" ∈ (Generated.targets "out" g).map (·.1) ∧
      ({} : FileTree).place "out" = ["out"] ∧
      ({} : FileTree).place "out/../Net/Config.cs" = ["Net", "Config.cs"] ∧
      ¬ ({} : FileTree).StrictlyBelow "out" "out/../Net/Config.cs" := by
  have hg := generate_single (s := {}) (t := parentTable) (by decide +kernel)
  have hout : ({} : FileTree).place "out" = ["out"] := by decide +kernel
  have hplace : ({} : FileTree).place "out/../Net/Config.cs" = ["Net", "Config.cs"] := by
    decide +kernel
  refine ⟨_, hg, ?_, hout, hplace, ?_⟩
  · decide +kernel
  · rintro ⟨rest, -, heq⟩
    rw [hout, hplace] at heq
    exact absurd (List.cons.inj heq).1 (by decide)

end Generation

end Scaffold
