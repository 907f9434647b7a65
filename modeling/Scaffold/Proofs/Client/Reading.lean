import Scaffold.Client.Source
import Scaffold.Proofs.Layout.Placed

/-! What the text of a client file tells: its imports, the resources of its component and the names
that it exports. -/
namespace Scaffold.Client

open Step (Unbroken)

def isGap (c : Char) : Bool := c == ',' || c == ' '

/-- The names stand between braces, and the source between quotes. -/
def Import.ofLine? (line : String) : Option Import := do
  let [clause, source, ";"] := Text.splitAt '\'' line | none
  let ["import ", rest] := Text.splitAt '\x7b' clause | none
  let [names, " from "] := Text.splitAt '\x7d' rest | none
  return ⟨(Text.runsWithout isGap names.toList).map String.ofList, source⟩

/-- Every second of the pieces between quotes. -/
def quoted : List String → List String
  | _ :: inner :: rest => inner :: quoted rest
  | _ => []

/-- The files named by a property of a component. -/
def resourcesOfLine (line : String) : List String :=
  let parts := Text.splitAt '\'' line
  if Text.trim (parts.headD "") ∈ ["templateUrl:", "styleUrls: ["] then quoted parts else []

def exported? (line : String) : Option String :=
  match Text.splitAt ' ' line with
  | "export" :: keyword :: name :: _ => if keyword ∈ ["class", "interface"] then some name else none
  | _ => none

def isHead (line : String) : Bool := line.isEmpty || (Import.ofLine? line).isSome

/-- The imports at the head of a file. -/
def importsOf (text : String) : List Import :=
  ((Text.splitAt '\n' text).takeWhile isHead).filterMap Import.ofLine?

/-- The resources in the decorator of the component that follows the head. -/
def resourcesOf (text : String) : List String :=
  match (Text.splitAt '\n' text).dropWhile isHead with
  | "@Component(\x7b" :: rest => (rest.takeWhile (· != "\x7d)")).flatMap resourcesOfLine
  | _ => []

/-- The exported classes and interfaces. -/
def exportsOf (text : String) : List String := (Text.splitAt '\n' text).filterMap exported?

/-- The characters that the readers go by. -/
def marks : List Char := ['\n', ' ', ',', '\'', '\x7b', '\x7d']

def Unmarked (s : String) : Prop := ∀ c ∈ s.toList, c ∉ marks

instance (s : String) : Decidable (Unmarked s) := List.decidableBAll (· ∉ marks) s.toList

@[simp] theorem unmarked_append {s t : String} : Unmarked (s ++ t) ↔ Unmarked s ∧ Unmarked t := by
  simp [Unmarked, or_imp, forall_and]

theorem Unmarked.not_mem {s : String} (h : Unmarked s) {c : Char} (hc : c ∈ marks) :
    c ∉ s.toList := fun hmem => h c hmem hc

theorem Unmarked.unbroken {s : String} (h : Unmarked s) : Unbroken s := h.not_mem (by decide)

/-- What stands between gaps in a list of names. -/
def Named (s : String) : Prop := s ≠ "" ∧ Unmarked s

instance (s : String) : Decidable (Named s) := inferInstanceAs (Decidable (s ≠ "" ∧ Unmarked s))

theorem Named.append {s t : String} (hs : Named s) (ht : Unmarked t) : Named (s ++ t) :=
  ⟨by simp [hs.1], unmarked_append.mpr ⟨hs.2, ht⟩⟩

def Import.line (i : Import) : String :=
  "import \x7b " ++ ", ".intercalate i.names ++ " \x7d from '" ++ i.source ++ "';"

theorem Import.step_eq (i : Import) : i.step = .line i.line := rfl

structure Import.Readable (i : Import) : Prop where
  names : ∀ n ∈ i.names, Named n
  source : Unmarked i.source

theorem runs_intercalate {names : List String} (h : ∀ n ∈ names, Named n) :
    Text.runsWithout isGap (' ' :: (", ".intercalate names).toList ++ [' ']) =
      names.map String.toList := by
  have hfirst : ∀ cs : List Char, Text.runsWithout isGap (' ' :: cs) = Text.runsWithout isGap cs :=
    Text.runsWithout_append_cons (by decide) []
  have hname : ∀ n ∈ names, Text.runsWithout isGap n.toList = [n.toList] := by
    intro n hn
    obtain ⟨hne, hunmarked⟩ := h n hn
    refine Text.runsWithout_of_none (by simpa using hne) fun c hc => ?_
    have hmarks := hunmarked c hc
    simp only [marks, List.mem_cons, not_or] at hmarks
    simp [isGap, hmarks]
  induction names with
  | nil => rfl
  | cons n rest ih =>
    have hn := hname n List.mem_cons_self
    rw [List.cons_append, hfirst, List.map_cons]
    cases rest with
    | nil =>
      rw [String.intercalate_singleton, Text.runsWithout_append_cons (by decide), hn]
      rfl
    | cons n' rest =>
      have hlist : (", ".intercalate (n :: n' :: rest)).toList ++ [' '] =
          n.toList ++ ',' :: (' ' :: (", ".intercalate (n' :: rest)).toList ++ [' ']) := by
        rw [String.intercalate_cons_cons]
        simp
      rw [hlist, Text.runsWithout_append_cons (by decide), hn,
        ih (fun m hm => h m (List.mem_cons_of_mem n hm))
          fun m hm => hname m (List.mem_cons_of_mem n hm)]
      rfl

theorem Import.ofLine?_line {i : Import} (h : i.Readable) : Import.ofLine? i.line = some i := by
  obtain ⟨names, source⟩ := i
  obtain ⟨hnames, hsource⟩ := h
  have hruns := runs_intercalate hnames
  have hfree : ∀ c ∈ marks, c ∉ ", ".toList → c ∉ (", ".intercalate names).toList :=
    fun c hc hgap => Text.not_mem_intercalate hgap fun n hn => (hnames n hn).2.not_mem hc
  have hopen := hfree '\x7b' (by decide) (by decide)
  have hclose := hfree '\x7d' (by decide) (by decide)
  have hquote := hfree '\'' (by decide) (by decide)
  have hsource := hsource.not_mem (c := '\'') (by decide)
  rw [line]
  generalize ", ".intercalate names = list at hruns hopen hclose hquote
  have hline : Text.splitAt '\'' ("import \x7b " ++ list ++ " \x7d from '" ++ source ++ "';") =
      ["import \x7b " ++ list ++ " \x7d from ", source, ";"] := by
    have heq : "import \x7b " ++ list ++ " \x7d from '" ++ source ++ "';" =
        "import \x7b " ++ list ++ " \x7d from " ++ "'" ++ (source ++ "'" ++ ";") :=
      String.toList_inj.mp (by simp)
    rw [heq, Text.splitAt_append rfl, Text.splitAt_of_not_mem (by simp [hquote]),
      Text.splitAt_two rfl hsource (by decide)]
    rfl
  have hclause : Text.splitAt '\x7b' ("import \x7b " ++ list ++ " \x7d from ") =
      ["import ", " " ++ list ++ " \x7d from "] := by
    have heq : "import \x7b " ++ list ++ " \x7d from " =
        "import " ++ "\x7b" ++ (" " ++ list ++ " \x7d from ") := String.toList_inj.mp (by simp)
    rw [heq, Text.splitAt_two rfl (by decide) (by simp [hopen])]
  have hrest : Text.splitAt '\x7d' (" " ++ list ++ " \x7d from ") = [" " ++ list ++ " ", " from "] := by
    have heq : " " ++ list ++ " \x7d from " = " " ++ list ++ " " ++ "\x7d" ++ " from " :=
      String.toList_inj.mp (by simp)
    rw [heq, Text.splitAt_two rfl (by simp [hclose]) (by decide)]
  have hlist : (" " ++ list ++ " ").toList = ' ' :: list.toList ++ [' '] := by simp
  simp only [ofLine?, hline, hclause, hrest, hlist, hruns, List.map_map]
  simp

/-- Every line that is read as an import begins and ends like one. -/
theorem Import.exists_of_ofLine? {line : String} {i : Import} (h : Import.ofLine? line = some i) :
    ∃ middle, line = "import " ++ middle ++ ";" := by
  unfold ofLine? at h
  split at h
  case h_1 clause source hline =>
    split at h
    case h_1 rest hclause =>
      have hline := hline ▸ (Text.intercalate_splitAt (p := "'") rfl line).symm
      have hclause := hclause ▸ (Text.intercalate_splitAt (p := "\x7b") rfl clause).symm
      refine ⟨"\x7b" ++ rest ++ "'" ++ source ++ "'", ?_⟩
      rw [hline, hclause]
      exact String.toList_inj.mp (by simp)
    case h_2 => contradiction
  case h_2 => contradiction

theorem Import.ofLine?_of_head {line : String} (h : line.toList.head? ≠ some 'i') :
    Import.ofLine? line = none := by
  refine Option.eq_none_iff_forall_ne_some.mpr fun i hi => ?_
  obtain ⟨middle, rfl⟩ := exists_of_ofLine? hi
  simp at h

theorem Import.ofLine?_of_last {line : String} (h : line.toList.getLast? ≠ some ';') :
    Import.ofLine? line = none := by
  refine Option.eq_none_iff_forall_ne_some.mpr fun i hi => ?_
  obtain ⟨middle, rfl⟩ := exists_of_ofLine? hi
  rw [String.toList_append] at h
  exact h List.getLast?_concat

theorem Import.Readable.unbroken {i : Import} (h : i.Readable) : Unbroken i.line := by
  have hnames : Unbroken (", ".intercalate i.names) :=
    Text.not_mem_intercalate (by decide) fun n hn => (h.names n hn).2.unbroken
  have hsource := h.source.unbroken
  rw [line]
  simp only [Step.unbroken_append, hnames, hsource]
  decide

theorem isHead_of_brace {line : String} (h : line.toList.getLast? = some '\x7b') :
    isHead line = false := by
  have hne : line ≠ "" := by
    rintro rfl
    contradiction
  have hread : Import.ofLine? line = none := Import.ofLine?_of_last (by simp [h])
  simp [isHead, hread, hne]

theorem opening_ne_component (header : String) : header ++ " \x7b" ≠ "@Component(\x7b" := by
  intro heq
  have hreverse := congrArg (·.toList.reverse) heq
  simp at hreverse

def Decorator.Readable : Decorator → Prop
  | .none | .injectable => True
  | .component selector templateUrl styleUrls =>
    Unmarked selector ∧ Unmarked templateUrl ∧ ∀ url ∈ styleUrls, Unmarked url

theorem quoted_of_quotes {front inner : String} (hfront : '\'' ∉ front.toList)
    (hinner : '\'' ∉ inner.toList) (rest : String) :
    quoted (Text.splitAt '\'' (front ++ "'" ++ inner ++ "'" ++ rest)) =
      inner :: quoted (Text.splitAt '\'' rest) := by
  rw [Text.splitAt_append rfl, Text.splitAt_two rfl hfront hinner]
  rfl

theorem quoted_list {urls : List String} (h : ∀ url ∈ urls, '\'' ∉ url.toList)
    {front rest : String} (hfront : '\'' ∉ front.toList) (hrest : '\'' ∉ rest.toList) :
    quoted (Text.splitAt '\''
      (front ++ ", ".intercalate (urls.map fun url => "'" ++ url ++ "'") ++ rest)) = urls := by
  induction urls generalizing front with
  | nil =>
    rw [Text.splitAt_of_not_mem (by simp [hfront, hrest])]
    rfl
  | cons url urls ih =>
    obtain ⟨hurl, hurls⟩ := List.forall_mem_cons.mp h
    cases urls with
    | nil =>
      have hsplit := quoted_of_quotes hfront hurl rest
      rw [Text.splitAt_of_not_mem hrest] at hsplit
      simpa [quoted, String.append_assoc] using hsplit
    | cons url' urls =>
      have hsplit := quoted_of_quotes hfront hurl (", " ++
        ", ".intercalate ((url' :: urls).map fun url => "'" ++ url ++ "'") ++ rest)
      rw [ih hurls (by decide)] at hsplit
      simpa only [List.map_cons, String.intercalate_cons_cons, String.append_assoc] using hsplit

def Decorator.styleList (urls : List String) : String :=
  ", ".intercalate (urls.map fun url => "'" ++ url ++ "'")

/-- The properties of a component, which stand in its decorator at the first level. -/
def Decorator.propertyTexts (selector templateUrl : String) : List String → List String
  | [] => ["selector: '" ++ selector ++ "',", "templateUrl: '" ++ templateUrl ++ "'"]
  | urls =>
    ["selector: '" ++ selector ++ "',", "templateUrl: '" ++ templateUrl ++ "',",
      "styleUrls: [" ++ styleList urls ++ "]"]

theorem Decorator.bracketed_steps (d : Decorator) : Step.Bracketed d.steps := by
  have hproperties : ∀ lines : List String, Step.Bracketed (properties lines) := by
    intro lines
    induction lines with
    | nil => exact .nil
    | cons line lines ih =>
      cases lines with
      | nil => exact .line line .nil
      | cons line' lines => exact ih.line (line ++ ",")
  cases d with
  | none => exact .nil
  | injectable => exact .within _ _ (.line _ .nil)
  | component selector templateUrl styleUrls => exact .within _ _ (hproperties _)

theorem Decorator.allPlaced_component (selector templateUrl : String) (styleUrls : List String) :
    Step.allPlaced .endOfHeader 0 (component selector templateUrl styleUrls).steps =
      (0, "@Component(\x7b") ::
        (propertyTexts selector templateUrl styleUrls).map (1, ·) ++ [(0, "\x7d)")] := by
  have hcomma : ∀ s : String, s ++ "'" ++ "," = s ++ "'," := fun s => String.append_assoc
  cases styleUrls with
  | nil => simp [Decorator.steps, Step.within, properties, propertyTexts, toString, hcomma]
  | cons url urls =>
    simp [Decorator.steps, Step.within, properties, propertyTexts, styleList, toString, hcomma]

theorem Decorator.allTexts_component (selector templateUrl : String) (styleUrls : List String) :
    Step.allTexts (component selector templateUrl styleUrls).steps =
      "@Component(\x7b" :: propertyTexts selector templateUrl styleUrls ++ ["\x7d)"] := by
  have hcomma : ∀ s : String, s ++ "'" ++ "," = s ++ "'," := fun s => String.append_assoc
  cases styleUrls with
  | nil => simp [Decorator.steps, properties, propertyTexts, toString, hcomma]
  | cons url urls => simp [Decorator.steps, properties, propertyTexts, styleList, toString, hcomma]

theorem resourcesOfLine_of_quote {front : String} (hfront : '\'' ∉ front.toList) (rest : String) :
    resourcesOfLine (front ++ "'" ++ rest) =
      if Text.trim front ∈ ["templateUrl:", "styleUrls: ["]
      then quoted (Text.splitAt '\'' (front ++ "'" ++ rest)) else [] := by
  have hhead : (Text.splitAt '\'' (front ++ "'" ++ rest)).headD "" = front := by
    rw [Text.splitAt_append rfl, Text.splitAt_of_not_mem hfront]
    rfl
  simp only [resourcesOfLine, hhead]

theorem Decorator.styleList_cons (url : String) (urls : List String) :
    ∃ rest, styleList (url :: urls) = "'" ++ rest := by
  cases urls with
  | nil => exact ⟨url ++ "'", by simp [styleList, String.append_assoc]⟩
  | cons url' urls =>
    refine ⟨url ++ "'" ++ ", " ++ styleList (url' :: urls), ?_⟩
    simp [styleList, String.append_assoc]

section

variable {s rest : String}

theorem resourcesOfLine_selector (s : String) :
    resourcesOfLine ("  " ++ ("selector: '" ++ s ++ "',")) = [] := by
  have heq : "  " ++ ("selector: '" ++ s ++ "',") = "  selector: " ++ "'" ++ (s ++ "',") :=
    String.toList_inj.mp (by simp)
  rw [heq, resourcesOfLine_of_quote (by decide), if_neg (by decide +kernel)]

theorem resourcesOfLine_templateUrl (hs : '\'' ∉ s.toList) (hrest : '\'' ∉ rest.toList) :
    resourcesOfLine ("  " ++ ("templateUrl: '" ++ s ++ "'" ++ rest)) = [s] := by
  have heq : "  " ++ ("templateUrl: '" ++ s ++ "'" ++ rest) =
      "  templateUrl: " ++ "'" ++ (s ++ "'" ++ rest) := String.toList_inj.mp (by simp)
  have hparts : "  templateUrl: " ++ "'" ++ (s ++ "'" ++ rest) =
      "  templateUrl: " ++ "'" ++ s ++ "'" ++ rest := String.toList_inj.mp (by simp)
  rw [heq, resourcesOfLine_of_quote (by decide), if_pos (by decide +kernel), hparts,
    quoted_of_quotes (by decide) hs, Text.splitAt_of_not_mem hrest]
  rfl

theorem resourcesOfLine_styleUrls {url : String} {urls : List String}
    (h : ∀ u ∈ url :: urls, '\'' ∉ u.toList) :
    resourcesOfLine ("  " ++ ("styleUrls: [" ++ Decorator.styleList (url :: urls) ++ "]")) =
      url :: urls := by
  have hquoted := quoted_list h (show '\'' ∉ "  styleUrls: [".toList by decide)
    (show '\'' ∉ "]".toList by decide)
  have heq : "  " ++ ("styleUrls: [" ++ Decorator.styleList (url :: urls) ++ "]") =
      "  styleUrls: [" ++ Decorator.styleList (url :: urls) ++ "]" :=
    String.toList_inj.mp (by simp)
  rw [← Decorator.styleList] at hquoted
  obtain ⟨inner, hinner⟩ := Decorator.styleList_cons url urls
  rw [heq]
  rw [hinner, ← String.append_assoc, String.append_assoc] at hquoted ⊢
  rw [resourcesOfLine_of_quote (by decide), if_pos (by decide +kernel), hquoted]

end

theorem Decorator.resources_propertyTexts {selector templateUrl : String} {styleUrls : List String}
    (h : (component selector templateUrl styleUrls).Readable) :
    (propertyTexts selector templateUrl styleUrls).flatMap (resourcesOfLine <| "  " ++ ·) =
      templateUrl :: styleUrls := by
  obtain ⟨-, htemplate, hstyles⟩ := h
  have htemplate := htemplate.not_mem (c := '\'') (by decide)
  cases styleUrls with
  | nil =>
    have hlast := resourcesOfLine_templateUrl htemplate (show '\'' ∉ "".toList by decide)
    rw [String.append_empty] at hlast
    simp [propertyTexts, resourcesOfLine_selector, hlast]
  | cons url urls =>
    have hinner := resourcesOfLine_templateUrl htemplate (show '\'' ∉ ",".toList by decide)
    have hcomma : "templateUrl: '" ++ templateUrl ++ "'" ++ "," =
        "templateUrl: '" ++ templateUrl ++ "'," := String.append_assoc
    have hlast := resourcesOfLine_styleUrls fun u hu => (hstyles u hu).not_mem (by decide)
    rw [hcomma] at hinner
    simp only [propertyTexts, List.flatMap_cons, List.flatMap_nil, resourcesOfLine_selector,
      hinner, hlast, List.append_nil]
    rfl

theorem Decorator.unbroken_propertyTexts {selector templateUrl : String} {styleUrls : List String}
    (h : (component selector templateUrl styleUrls).Readable) :
    ∀ text ∈ propertyTexts selector templateUrl styleUrls, Unbroken text ∧ text ≠ "" := by
  obtain ⟨hselector, htemplate, hstyles⟩ := h
  have hselector := hselector.unbroken
  have htemplate := htemplate.unbroken
  have hlist : Unbroken (styleList styleUrls) := by
    refine Text.not_mem_intercalate (by decide) fun quotedUrl hmem => ?_
    obtain ⟨url, hurl, rfl⟩ := List.mem_map.mp hmem
    exact Step.unbroken_append.mpr ⟨Step.unbroken_append.mpr
      ⟨by decide, (hstyles url hurl).unbroken⟩, by decide⟩
  cases styleUrls with
  | nil => simp [propertyTexts, hselector, htemplate]; decide
  | cons url urls => simp [propertyTexts, hselector, htemplate, hlist]; decide

structure Export.Readable (e : Export) : Prop where
  keyword : e.keyword = "class" ∨ e.keyword = "interface"
  name : Unmarked e.name
  clause : e.clause = "" ∨ ∃ rest, e.clause = " " ++ rest ∧ Unbroken rest
  body : Step.Bracketed e.body

namespace Export

variable {e : Export}

def line (e : Export) : String := "export " ++ e.keyword ++ " " ++ e.name ++ e.clause

theorem step_eq (e : Export) : e.step = .block e.line "\x7d" e.body := by
  rw [step, line, Step.braces]
  simp [toString, String.append_assoc]

theorem Readable.exported?_line (h : e.Readable) : exported? (e.line ++ " \x7b") = some e.name := by
  have hkeyword : ' ' ∉ e.keyword.toList := by
    rcases h.keyword with hkeyword | hkeyword <;> rw [hkeyword] <;> decide
  have hname : ' ' ∉ e.name.toList := h.name.not_mem (by decide)
  obtain ⟨rest, hrest⟩ : ∃ rest, e.clause ++ " \x7b" = " " ++ rest := by
    rcases h.clause with hclause | ⟨rest, hclause, -⟩
    · exact ⟨"\x7b", by rw [hclause]; rfl⟩
    · exact ⟨rest ++ " \x7b", by rw [hclause, String.append_assoc]⟩
  have hline : e.line ++ " \x7b" =
      "export" ++ " " ++ (e.keyword ++ " " ++ (e.name ++ " " ++ rest)) := by
    rw [line, String.append_assoc, hrest]
    exact String.toList_inj.mp (by simp)
  have hsplit : Text.splitAt ' ' (e.line ++ " \x7b") =
      "export" :: e.keyword :: e.name :: Text.splitAt ' ' rest := by
    rw [hline, Text.splitAt_append rfl, Text.splitAt_append rfl, Text.splitAt_append rfl,
      Text.splitAt_of_not_mem hkeyword, Text.splitAt_of_not_mem hname]
    rfl
  simp [exported?, hsplit, h.keyword]

end Export

end Scaffold.Client
