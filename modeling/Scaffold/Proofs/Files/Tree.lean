import Mathlib.Data.List.Basic
import Scaffold.Files.Tree
import Scaffold.Proofs.Path

/-! What writing a file changes in a file system. -/
namespace Scaffold.FileTree

variable {t t' u : FileTree} {l l' x : Location} {n : FileNode}

theorem lookup_filter_ne {entries : List (Location × FileNode)} (h : x ≠ l) :
    (entries.filter (·.1 != l)).lookup x = entries.lookup x := by
  induction entries with
  | nil => rfl
  | cons e rest ih =>
    obtain ⟨y, m⟩ := e
    by_cases hy : y = l
    · subst hy
      have hne : (x == y) = false := by simpa using h
      rw [List.filter_cons_of_neg (by simp), ih, List.lookup_cons, hne]
    · rw [List.filter_cons_of_pos (by simpa using hy), List.lookup_cons, List.lookup_cons, ih]

@[simp] theorem node?_root (t : FileTree) : t.node? [] = some .folder := if_pos rfl

theorem node?_put_self (h : l ≠ []) : (t.put l n).node? l = some n := by
  rw [node?, if_neg h]
  simp [put]

theorem node?_put_of_ne (h : x ≠ l) : (t.put l n).node? x = t.node? x := by
  unfold node? put
  by_cases hroot : x = []
  · rw [if_pos hroot, if_pos hroot]
  · have hne : (x == l) = false := by simpa using h
    rw [if_neg hroot, if_neg hroot, List.lookup_cons, hne]
    exact lookup_filter_ne h

/-- The segments that are names. -/
def isName (s : String) : Bool := !(["", ".", ".."].contains s)

/-- One segment further. -/
def onward (l : Location) (s : String) : Location :=
  if s == "" || s == "." then l else if s == ".." then l.dropLast else l ++ [s]

/-- The locations that the names among the segments lead to. -/
def passed (l : Location) : List String → List Location
  | [] => []
  | s :: rest => (if isName s then [l ++ [s]] else []) ++ passed (onward l s) rest

def place (t : FileTree) (p : String) : Location := (Path.segments p).foldl onward (t.start p)

/-- The folders that are passed on the way to a file. -/
def above (t : FileTree) (p : String) : List Location :=
  passed (t.start p) (Path.segments p).dropLast

theorem onward_of_isName {s : String} (h : isName s) (l : Location) : onward l s = l ++ [s] := by
  simp [isName] at h
  simp [onward, h]

/-- A segment is skipped, leads upwards, or is a name. -/
theorem segment_cases (s : String) :
    ((s == "" || s == ".") ∧ isName s = false ∧ ∀ l, onward l s = l) ∨
    ((s == "" || s == ".") = false ∧ (s == "..") ∧ isName s = false ∧
      ∀ l, onward l s = l.dropLast) ∨
    ((s == "" || s == ".") = false ∧ (s == "..") = false ∧ isName s) := by
  by_cases hskip : s == "" || s == "."
  · left
    simp at hskip
    rcases hskip with rfl | rfl <;> simp [isName, onward]
  · right
    by_cases hup : s == ".."
    · left
      simp at hup
      subst hup
      simp [isName, onward]
    · right
      simp at hskip hup
      simp [isName, hskip, hup]

theorem passed_of_isName {s : String} (h : isName s) (l : Location) (rest : List String) :
    passed l (s :: rest) = (l ++ [s]) :: passed (l ++ [s]) rest := by
  rw [passed, if_pos h, onward_of_isName h]
  rfl

theorem passed_of_not_isName {s : String} (h : isName s = false) (l : Location)
    (rest : List String) : passed l (s :: rest) = passed (onward l s) rest := by
  rw [passed, if_neg (by simp [h])]
  rfl

/-- Folders are made for one segment, then for the rest. -/
theorem makeFolders_cons_cases {s : String} {rest : List String}
    (h : t.makeFolders l (s :: rest) = (t', some l')) :
    (isName s = false ∧ t.makeFolders (onward l s) rest = (t', some l')) ∨
    (isName s ∧ usableName s ∧ t.node? (l ++ [s]) = some .folder ∧
      t.makeFolders (l ++ [s]) rest = (t', some l')) ∨
    (isName s ∧ usableName s ∧ t.node? (l ++ [s]) = none ∧
      (t.put (l ++ [s]) .folder).makeFolders (l ++ [s]) rest = (t', some l')) := by
  rw [makeFolders] at h
  obtain ⟨hskip, hname, honward⟩ | ⟨hskip, hup, hname, honward⟩ | ⟨hskip, hup, hname⟩ :=
    segment_cases s
  · rw [if_pos hskip] at h
    exact .inl ⟨hname, by rwa [honward]⟩
  · rw [if_neg (by simp [hskip]), if_pos hup] at h
    exact .inl ⟨hname, by rwa [honward]⟩
  · rw [if_neg (by simp [hskip]), if_neg (by simp [hup])] at h
    right
    split at h
    case isFalse => cases h
    case isTrue husable =>
      dsimp only at h
      split at h
      case h_1 hnode => exact .inl ⟨hname, husable, hnode, h⟩
      case h_2 => cases h
      case h_3 hnode => exact .inr ⟨hname, husable, hnode, h⟩

/-- The name of the file itself. -/
def baseName (p : String) : String := (Path.segments p).getLast?.getD ""

theorem place_eq (t : FileTree) {p : String} (h : isName (baseName p)) :
    t.place p = (Path.segments p).dropLast.foldl onward (t.start p) ++ [baseName p] := by
  have hfold := congrArg (List.foldl onward (t.start p)) (Path.dropLast_append_last p)
  rw [List.foldl_append, List.foldl_cons, List.foldl_nil, ← baseName, onward_of_isName h] at hfold
  exact hfold.symm

/-- The file is put into the last one of the folders. -/
theorem write_cases {p text : String} (h : t.write p text = (t', true)) :
    ∃ u l, usablePath p ∧
      t.makeFolders (t.start p) (Path.segments p).dropLast = (u, some l) ∧
      isName (baseName p) ∧ usableName (baseName p) ∧
      u.node? (l ++ [baseName p]) ≠ some .folder ∧
      t' = u.put (l ++ [baseName p]) (.file text) := by
  unfold write at h
  split at h
  case isFalse => cases h
  case isTrue husable =>
    dsimp only at h
    split at h
    case h_2 => cases h
    case h_1 u l hfolders =>
      unfold putFile at h
      dsimp only at h
      split at h
      case isTrue => cases h
      case isFalse hfree =>
        simp only [Bool.or_eq_true, not_or, Bool.not_eq_true, beq_eq_false_iff_ne,
          Bool.not_eq_false'] at hfree
        obtain ⟨⟨hname, hname'⟩, hnode⟩ := hfree
        cases h
        exact ⟨u, l, husable, hfolders, by simpa [isName, baseName] using hname, hname', hnode, rfl⟩

/-- From one state to another, these files get these texts and these folders come to be, where they
are missing. Neither takes the place of the other kind, and all else stays. -/
structure Changes (t t' : FileTree) (files : List (Location × String)) (folders : List Location) :
    Prop where
  working : t'.workingFolder = t.workingFolder
  file : ∀ f ∈ files, t'.node? f.1 = some (.file f.2)
  folder : ∀ x ∈ folders, t'.node? x = some .folder
  not_folder : ∀ f ∈ files, t.node? f.1 ≠ some .folder
  not_file : ∀ x ∈ folders, ∀ text, t.node? x ≠ some (.file text)
  rest : ∀ x, x ∉ files.map (·.1) → x ∉ folders → t'.node? x = t.node? x

namespace Changes

theorem refl (t : FileTree) : Changes t t [] [] where
  working := rfl
  file := by simp
  folder := by simp
  not_folder := by simp
  not_file := by simp
  rest := fun _ _ _ => rfl

theorem trans {files files' : List (Location × String)} {folders folders' : List Location}
    (h : Changes t u files folders) (h' : Changes u t' files' folders')
    (hdisjoint : List.Disjoint (files.map (·.1)) (files'.map (·.1))) :
    Changes t t' (files ++ files') (folders ++ folders') where
  working := h'.working.trans h.working
  file := by
    intro f hf
    rcases List.mem_append.mp hf with hf | hf
    · have hfile := h.file f hf
      have hnot : f.1 ∉ folders' := fun hmem => h'.not_file f.1 hmem f.2 hfile
      rw [h'.rest f.1 (hdisjoint (List.mem_map_of_mem hf)) hnot, hfile]
    · exact h'.file f hf
  folder := by
    intro x hx
    by_cases hx' : x ∈ folders'
    · exact h'.folder x hx'
    · have hfolder := h.folder x ((List.mem_append.mp hx).resolve_right hx')
      have hnot : x ∉ files'.map (·.1) := by
        intro hmem
        obtain ⟨f, hf, rfl⟩ := List.mem_map.mp hmem
        exact h'.not_folder f hf hfolder
      rw [h'.rest x hnot hx', hfolder]
  not_folder := by
    intro f hf
    rcases List.mem_append.mp hf with hf | hf
    · exact h.not_folder f hf
    · intro hfolder
      have hnot : f.1 ∉ files.map (·.1) := fun hmem =>
        hdisjoint hmem (List.mem_map_of_mem hf)
      by_cases hmem : f.1 ∈ folders
      · exact h'.not_folder f hf (h.folder f.1 hmem)
      · exact h'.not_folder f hf ((h.rest f.1 hnot hmem).trans hfolder)
  not_file := by
    intro x hx text hfile
    by_cases hmem : x ∈ folders
    · exact h.not_file x hmem text hfile
    · have hx' := (List.mem_append.mp hx).resolve_left hmem
      by_cases hplace : x ∈ files.map (·.1)
      · obtain ⟨f, hf, rfl⟩ := List.mem_map.mp hplace
        exact h'.not_file f.1 hx' f.2 (h.file f hf)
      · exact h'.not_file x hx' text ((h.rest x hplace hmem).trans hfile)
  rest := by
    intro x hfiles hfolders
    rw [List.map_append, List.mem_append, not_or] at hfiles
    rw [List.mem_append, not_or] at hfolders
    rw [h'.rest x hfiles.2 hfolders.2, h.rest x hfiles.1 hfolders.1]

theorem put_folder (hl : l ≠ []) (h : t.node? l = none) :
    Changes t (t.put l .folder) [] [l] where
  working := rfl
  file := by simp
  folder := by simpa using node?_put_self hl
  not_folder := by simp
  not_file := by simp [h]
  rest := fun x _ hx => node?_put_of_ne (by simpa using hx)

theorem put_file (hl : l ≠ []) (h : t.node? l ≠ some .folder) (text : String) :
    Changes t (t.put l (.file text)) [(l, text)] [] where
  working := rfl
  file := by simpa using node?_put_self hl
  folder := by simp
  not_folder := by simpa using h
  not_file := by simp
  rest := fun x hx _ => node?_put_of_ne (by simpa using hx)

/-- A folder that is there already. -/
theorem of_folder (h : t.node? l = some .folder) : Changes t t [] [l] where
  working := rfl
  file := by simp
  folder := by simpa using h
  not_folder := by simp
  not_file := by simp [h]
  rest := fun _ _ _ => rfl

theorem makeFolders {ss : List String} (h : t.makeFolders l ss = (t', some l')) :
    Changes t t' [] (passed l ss) ∧ l' = ss.foldl onward l := by
  induction ss generalizing t l with
  | nil =>
    cases h
    exact ⟨refl _, rfl⟩
  | cons s rest ih =>
    rw [List.foldl_cons]
    obtain ⟨hname, h⟩ | ⟨hname, -, hnode, h⟩ | ⟨hname, -, hnode, h⟩ := makeFolders_cons_cases h
    · rw [passed_of_not_isName hname]
      exact ih h
    all_goals
      rw [passed_of_isName hname, onward_of_isName hname]
      obtain ⟨hrest, hl'⟩ := ih h
      refine ⟨?_, hl'⟩
    · exact (of_folder hnode).trans hrest (List.disjoint_nil_left _)
    · exact (put_folder (by simp) hnode).trans hrest (List.disjoint_nil_left _)

theorem write {p text : String} (h : t.write p text = (t', true)) :
    Changes t t' [(t.place p, text)] (t.above p) := by
  obtain ⟨u, l, -, hfolders, hname, -, hnode, rfl⟩ := write_cases h
  obtain ⟨hmade, rfl⟩ := makeFolders hfolders
  rw [t.place_eq hname]
  have hall := hmade.trans (put_file (by simp) hnode text) (List.disjoint_nil_left _)
  rwa [List.append_nil] at hall

end Changes

/-- What every file system is like: all that there is lies in folders. -/
structure Rooted (t : FileTree) : Prop where
  working : t.node? t.workingFolder = some .folder
  parent : ∀ l s, t.node? (l ++ [s]) ≠ none → t.node? l = some .folder

namespace Rooted

theorem start (h : t.Rooted) (p : String) : t.node? (t.start p) = some .folder := by
  unfold FileTree.start
  split
  · exact node?_root t
  · exact h.working

theorem dropLast (h : t.Rooted) (hl : t.node? l = some .folder) :
    t.node? l.dropLast = some .folder := by
  rcases List.eq_nil_or_concat l with rfl | ⟨l, s, rfl⟩
  · exact hl
  · rw [List.concat_eq_append, List.dropLast_concat]
    exact h.parent l s (by rw [← List.concat_eq_append, hl]; simp)

theorem onward (h : t.Rooted) {s : String} (hs : isName s = false)
    (hl : t.node? l = some .folder) : t.node? (onward l s) = some .folder := by
  obtain ⟨-, -, heq⟩ | ⟨-, -, -, heq⟩ | ⟨-, -, hname⟩ := segment_cases s
  · rwa [heq]
  · rw [heq]
    exact h.dropLast hl
  · rw [hs] at hname
    contradiction

/-- A new node in a folder leaves all nodes in folders, unless it takes the place of one. -/
theorem put (h : t.Rooted) {s : String} (hl : t.node? l = some .folder)
    (hnode : t.node? (l ++ [s]) ≠ some .folder) : (t.put (l ++ [s]) n).Rooted where
  working := by
    have hne : t.workingFolder ≠ l ++ [s] := fun heq => hnode (heq ▸ h.working)
    exact (node?_put_of_ne hne).trans h.working
  parent := by
    intro k r hr
    by_cases heq : k ++ [r] = l ++ [s]
    · obtain ⟨rfl, -⟩ := List.append_inj' heq rfl
      have hne : k ≠ k ++ [s] := by simp
      rw [node?_put_of_ne hne]
      exact hl
    · rw [node?_put_of_ne heq] at hr
      have hk := h.parent k r hr
      have hne : k ≠ l ++ [s] := fun heq' => hnode (heq' ▸ hk)
      rw [node?_put_of_ne hne, hk]

theorem makeFolders {ss : List String} (h : t.Rooted) (hl : t.node? l = some .folder)
    (hmade : t.makeFolders l ss = (t', some l')) : t'.Rooted ∧ t'.node? l' = some .folder := by
  induction ss generalizing t l with
  | nil =>
    cases hmade
    exact ⟨h, hl⟩
  | cons s rest ih =>
    obtain ⟨hname, hrest⟩ | ⟨hname, -, hnode, hrest⟩ | ⟨hname, -, hnode, hrest⟩ :=
      makeFolders_cons_cases hmade
    · exact ih h (h.onward hname hl) hrest
    · exact ih h hnode hrest
    · exact ih (h.put hl (by simp [hnode])) (node?_put_self (by simp)) hrest

theorem write {p text : String} (h : t.Rooted) (hwrite : t.write p text = (t', true)) :
    t'.Rooted := by
  obtain ⟨u, l, -, hfolders, -, -, hnode, rfl⟩ := write_cases hwrite
  obtain ⟨hu, hl⟩ := h.makeFolders (h.start p) hfolders
  exact hu.put hl hnode

end Rooted

theorem usableName_of_makeFolders {ss : List String} (h : t.makeFolders l ss = (t', some l')) :
    ∀ s ∈ ss, isName s → usableName s := by
  induction ss generalizing t l with
  | nil => simp
  | cons s rest ih =>
    obtain ⟨hname, h⟩ | ⟨-, husable, -, h⟩ | ⟨-, husable, -, h⟩ := makeFolders_cons_cases h
    · exact List.forall_mem_cons.mpr ⟨fun hs => absurd hs (by simp [hname]), ih h⟩
    · exact List.forall_mem_cons.mpr ⟨fun _ => husable, ih h⟩
    · exact List.forall_mem_cons.mpr ⟨fun _ => husable, ih h⟩

theorem walk_cons (hl : t.node? l = some .folder) {s : String} (hs : isName s → usableName s)
    (rest : List String) : t.walk l (s :: rest) = t.walk (onward l s) rest := by
  rw [walk, if_neg (by simp [hl])]
  obtain ⟨hskip, -, honward⟩ | ⟨hskip, hup, -, honward⟩ | ⟨hskip, hup, hname⟩ := segment_cases s
  · rw [if_pos hskip, honward]
  · rw [if_neg (by simp [hskip]), if_pos hup, honward]
  · rw [if_neg (by simp [hskip]), if_neg (by simp [hup]), if_pos (hs hname),
      onward_of_isName hname]

/-- Where all folders on the way are there, the way leads to the place of the last name. -/
theorem walk_of_folders (h : t.Rooted) {ss : List String} {s : String} (hs : isName s)
    (husable : usableName s) (hnames : ∀ r ∈ ss, isName r → usableName r)
    (hl : t.node? l = some .folder) (hpassed : ∀ x ∈ passed l ss, t.node? x = some .folder) :
    t.walk l (ss ++ [s]) = some (ss.foldl onward l ++ [s]) := by
  induction ss generalizing l with
  | nil =>
    rw [List.nil_append, walk_cons hl fun _ => husable, onward_of_isName hs]
    rfl
  | cons r rest ih =>
    obtain ⟨hr, hrest⟩ := List.forall_mem_cons.mp hnames
    rw [List.cons_append, walk_cons hl hr, List.foldl_cons]
    by_cases hname : isName r
    · rw [passed_of_isName hname] at hpassed
      obtain ⟨hnext, hpassed⟩ := List.forall_mem_cons.mp hpassed
      rw [← onward_of_isName hname] at hnext hpassed
      exact ih hrest hnext hpassed
    · rw [Bool.not_eq_true] at hname
      rw [passed_of_not_isName hname] at hpassed
      exact ih hrest (h.onward hname hl) hpassed

/-- Reading finds what has been written, as long as it stays with the folders above it. -/
theorem read?_of_write {p text : String} (h : t.write p text = (t', true)) (hroot : u.Rooted)
    (hworking : u.workingFolder = t.workingFolder)
    (hfolders : ∀ x ∈ t.above p, u.node? x = some .folder)
    (hfile : u.node? (t.place p) = some (.file text)) : u.read? p = some text := by
  obtain ⟨v, l, hpath, hmade, hname, husable, -, -⟩ := write_cases h
  have hstart : u.start p = t.start p := by rw [start, start, hworking]
  have hwalk := walk_of_folders hroot hname husable (usableName_of_makeFolders hmade)
    (hstart ▸ hroot.start p) hfolders
  have hsegments : Path.segments p = (Path.segments p).dropLast ++ [baseName p] :=
    (Path.dropLast_append_last p).symm
  rw [← hsegments, ← t.place_eq hname, ← hstart] at hwalk
  rw [read?, find?, locate?, if_pos hpath, hwalk, Option.bind_some, hfile]

end Scaffold.FileTree
