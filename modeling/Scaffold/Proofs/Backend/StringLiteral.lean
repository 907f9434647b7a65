import Scaffold.Backend.Access
import Scaffold.Proofs.Layout
import Scaffold.Proofs.Model
import Scaffold.Proofs.Schema.Key
import Scaffold.Proofs.Statement.Markers
import Scaffold.Proofs.Text.Escaped
import Scaffold.Proofs.Text.Reader
import Scaffold.Proofs.Text.Units
import Scaffold.Text.Digits

/-! A reader of string literals and of the constants that hold them. What the data-access class
declares is read back as the texts of the statements. -/
namespace Scaffold.Backend.StringLiteral

open Reader

variable {t : Table} {database : String} {b : ParamBudget} {m : Model}

/-- Characters that end a line. -/
def lineEnds : List Char := ['\n', '\r', '\u0085', '\u2028', '\u2029']

/-- What a letter behind a backslash stands for. -/
def simpleEscapes : List (Char × UInt16) := [
  ('\'', 0x27), ('"', 0x22), ('\\', 0x5C), ('0', 0x00), ('a', 0x07), ('b', 0x08), ('f', 0x0C),
  ('n', 0x0A), ('r', 0x0D), ('t', 0x09), ('v', 0x0B)]

/-- As many hexadecimal digits as there are, within bounds. -/
def hexadecimal (least most : Nat) : Reader Char Nat := fun cs =>
  let digits := (cs.take most).takeWhile (Text.isDigit 16)
  if digits.length < least then none
  else some (Text.ofDigits 16 digits, cs.drop digits.length)

def escape : Reader Char (List UInt16) := one '\\' *> firstOf [
  do return [← ofOption (simpleEscapes.lookup (← item))],
  do one 'x'; return [.ofNat (← hexadecimal 1 4)],
  do one 'u'; return [.ofNat (← hexadecimal 4 4)],
  do
    one 'U'
    let n ← hexadecimal 8 8
    require (n < 0x110000)
    return Text.unitsOfPoint n]

/-- A character that stands for itself. -/
def plain : Reader Char (List UInt16) := do
  let c ← sat fun c => c != '"' && c != '\\' && !lineEnds.contains c
  return Text.unitsOfPoint c.toNat

/-- A literal, as the code units of the text that it denotes. -/
def read : Reader Char (List UInt16) := do
  one '"'
  let parts ← many (plain <|> escape)
  one '"'
  return parts.flatten

/-- No line ends within the text. -/
def SingleLine (s : String) : Prop := ∀ c ∈ s.toList, c ∉ lineEnds

instance (s : String) : Decidable (SingleLine s) :=
  decidable_of_iff (s.toList.all (!lineEnds.contains ·)) (by simp [SingleLine])

theorem plain_eq {c : Char} (hquote : c ≠ '"') (hslash : c ≠ '\\') (hline : c ∉ lineEnds)
    (s : List Char) : plain (c :: s) = some (Text.unitsOfPoint c.toNat, s) := by
  have hsat : sat (fun c => c != '"' && c != '\\' && !lineEnds.contains c) (c :: s) =
      some (c, s) := by
    rw [sat, if_pos (by simp [hquote, hslash, hline])]
  rw [plain, bind_apply hsat]
  rfl

/-- One code word of a literal is one item of its reading. -/
theorem read_escapeChar {c : Char} (hline : c ∉ lineEnds) (s : List Char) :
    (plain <|> escape) (escapeChar c ++ s) = some (Text.unitsOfPoint c.toNat, s) := by
  by_cases hslash : c = '\\'
  · subst hslash
    rfl
  by_cases hquote : c = '"'
  · subst hquote
    rfl
  · have hcode : escapeChar c = [c] := by
      rw [escapeChar]
      · exact hslash
      · exact hquote
    rw [hcode, List.singleton_append, orElse_apply, plain_eq hquote hslash hline]
    rfl

/-- The reader takes just the literal off the front, and gives what the literal was made from. -/
theorem read_literal {s : String} (h : SingleLine s) (r : List Char) :
    read ((literal s).toList ++ r) = some (Text.units s, r) := by
  have hlist : (literal s).toList ++ r = '"' :: (s.toList.flatMap escapeChar ++ '"' :: r) := by
    simp [literal]
  have hitems : many (plain <|> escape) (s.toList.flatMap escapeChar ++ '"' :: r) =
      some (s.toList.map fun c => Text.unitsOfPoint c.toNat, '"' :: r) := by
    refine many_flatMap (fun c hc => read_escapeChar (h c hc)) (fun c _ => ?_) rfl
    unfold escapeChar
    split <;> simp
  have hopen : one '"' ('"' :: (s.toList.flatMap escapeChar ++ '"' :: r)) =
      some ((), s.toList.flatMap escapeChar ++ '"' :: r) := rfl
  have hclose : one '"' ('"' :: r) = some ((), r) := rfl
  rw [hlist, read, bind_apply hopen, bind_apply hitems, bind_apply hclose, Text.units,
    List.flatMap_def]
  rfl

/-- The name of a text constant, and the code units of its value. -/
def constant : Reader Char (String × List UInt16) := do
  exactly "private const string ".toList
  let name ← takeWhile1 (· != ' ')
  exactly " = ".toList
  let value ← read
  one ';'
  return (String.ofList name, value)

def constant? (line : String) : Option (String × List UInt16) := whole? constant line.toList

theorem constant?_declaration {name text : String} (hne : name ≠ "") (hname : ' ' ∉ name.toList)
    (htext : SingleLine text) :
    constant? s!"private const string {name} = {literal text};" =
      some (name, Text.units text) := by
  have hlist : s!"private const string {name} = {literal text};".toList =
      "private const string ".toList ++
        (name.toList ++ (" = ".toList ++ ((literal text).toList ++ [';']))) := by
    simp [toString]
  have hword : takeWhile1 (· != ' ') (name.toList ++ (" = ".toList ++
      ((literal text).toList ++ [';']))) =
        some (name.toList, " = ".toList ++ ((literal text).toList ++ [';'])) := by
    refine takeWhile1_append (d := ' ') (by simpa using hne) (fun c hc => ?_) (by decide) _
    simpa using fun heq : c = ' ' => hname (heq ▸ hc)
  have hend : one ';' [';'] = some ((), []) := rfl
  have hread : constant s!"private const string {name} = {literal text};".toList =
      some ((name, Text.units text), []) := by
    rw [hlist, constant, bind_apply (exactly_append _ _), bind_apply hword,
      bind_apply (exactly_append _ _), bind_apply (read_literal htext _), bind_apply hend,
      String.ofList_toList]
    rfl
  exact whole?_of_nil hread

/-- Another type of constant is told apart by its first letter. -/
theorem constant?_number (name value : String) :
    constant? s!"private const int {name} = {value};" = none := by
  have hlist : s!"private const int {name} = {value};".toList =
      "private const ".toList ++ 'i' :: s!"nt {name} = {value};".toList := by
    simp [toString]
  have hword : "private const string ".toList =
      "private const ".toList ++ 's' :: "tring ".toList := by simp
  have hfail : exactly "private const string ".toList
      s!"private const int {name} = {value};".toList = none := by
    rw [hlist, hword, exactly_append_append]
    rfl
  refine whole?_of_none ?_
  change (exactly "private const string ".toList _).bind _ = none
  rw [hfail, Option.bind_none]

theorem singleLine_append {s t : String} : SingleLine (s ++ t) ↔ SingleLine s ∧ SingleLine t := by
  simp [SingleLine, or_imp, forall_and]

theorem singleLine_intercalate {sep : String} {names : List String} {code : String → String}
    (hsep : SingleLine sep) (h : ∀ name ∈ names, SingleLine (code name)) :
    SingleLine (sep.intercalate (names.map code)) := by
  intro c hc hline
  have hparts : ∀ part ∈ names.map code, c ∉ part.toList :=
    List.forall_mem_map.mpr fun name hname hin => h name hname c hin hline
  exact Text.not_mem_intercalate (fun hin => hsep c hin hline) hparts hc

theorem singleLine_quoteName {name : String} (h : SingleLine name) :
    SingleLine (quoteName name) := by
  have hbrackets : ∀ c ∈ lineEnds, c ∉ "[]".toList := by simp [lineEnds]
  intro c hc hline
  exact not_mem_quoteName (hbrackets c hline) (fun hin => h c hin hline) hc

theorem singleLine_param {name suffix : String} (hname : SingleLine name)
    (hsuffix : SingleLine suffix) : SingleLine (Statements.param name suffix) := by
  have hat : SingleLine "@" := by decide +kernel
  simp [Statements.param, singleLine_append, hat, hname, hsuffix]

/-- No name in the statements ends a line. -/
structure SingleLineNames (s : Statements) : Prop where
  table : SingleLine s.table
  key : SingleLine s.key
  columns : ∀ c ∈ s.columns, SingleLine c

namespace SingleLineNames

variable {s : Statements} {suffix : String}

theorem quotedTable (h : SingleLineNames s) : SingleLine s.quotedTable :=
  singleLine_quoteName h.table

theorem quotedKey (h : SingleLineNames s) : SingleLine s.quotedKey := singleLine_quoteName h.key

theorem columnList (h : SingleLineNames s) : SingleLine s.columnList :=
  singleLine_intercalate (by decide +kernel) fun c hc => singleLine_quoteName (h.columns c hc)

theorem valueList (h : SingleLineNames s) (hsuffix : SingleLine suffix) :
    SingleLine (s.valueList suffix) :=
  singleLine_intercalate (by decide +kernel) fun c hc => singleLine_param (h.columns c hc) hsuffix

theorem setList (h : SingleLineNames s) (hsuffix : SingleLine suffix) :
    SingleLine (s.setList suffix) := by
  have hequals : SingleLine " = " := by decide +kernel
  refine singleLine_intercalate (by decide +kernel) fun c hc => ?_
  have hname := h.columns c hc
  simp [singleLine_append, hequals, singleLine_quoteName hname, singleLine_param hname hsuffix]

theorem insertWith (h : SingleLineNames s) (hsuffix : SingleLine suffix) (output : Bool) :
    SingleLine (s.insertWith suffix output) := by
  have hfixed : SingleLine "INSERT INTO " ∧ SingleLine " DEFAULT VALUES" ∧ SingleLine " (" ∧
      SingleLine ")" ∧ SingleLine " VALUES (" := by decide +kernel
  have hreturned : SingleLine (if output then " OUTPUT INSERTED." ++ s.quotedKey else "") := by
    split
    · exact singleLine_append.mpr ⟨by decide +kernel, h.quotedKey⟩
    · decide +kernel
  unfold Statements.insertWith
  dsimp only
  split <;>
    simp [singleLine_append, hfixed, h.quotedTable, hreturned, h.columnList, h.valueList hsuffix]

theorem updateWith (h : SingleLineNames s) (hsuffix : SingleLine suffix) :
    SingleLine (s.updateWith suffix) := by
  have hfixed : SingleLine "UPDATE " ∧ SingleLine " SET " ∧ SingleLine " WHERE " ∧
      SingleLine " = " := by decide +kernel
  unfold Statements.updateWith
  simp [singleLine_append, hfixed, h.quotedTable, h.quotedKey, h.setList hsuffix,
    singleLine_param h.key hsuffix]

/-- A statement on the rows that the key picks out. -/
theorem keyed (h : SingleLineNames s) {verb condition : String} (hverb : SingleLine verb)
    (hcondition : SingleLine condition) :
    SingleLine (verb ++ (s.quotedTable ++ (" WHERE " ++ (s.quotedKey ++ condition)))) := by
  have hwhere : SingleLine " WHERE " := by decide +kernel
  simp only [singleLine_append, hverb, h.quotedTable, hwhere, h.quotedKey, hcondition, and_self]

theorem queries (h : SingleLineNames s) : ∀ q ∈ Access.queries s, SingleLine q.2 := by
  have hselect : SingleLine "SELECT * FROM " := by decide +kernel
  have hdelete : SingleLine "DELETE FROM " := by decide +kernel
  have hequals : SingleLine " = " := by decide +kernel
  have hend : SingleLine ";" := by decide +kernel
  have hnone : SingleLine "" := by decide +kernel
  have hmark : SingleLine Statements.rowMark := by decide +kernel
  have hone : SingleLine (" = " ++ Statements.param s.key "") :=
    singleLine_append.mpr ⟨hequals, singleLine_param h.key hnone⟩
  have hmany : SingleLine (" IN (" ++ (Statements.idsMark ++ ")")) := by decide +kernel
  simp only [Access.queries, List.forall_mem_cons]
  unfold Statements.get Statements.getAll Statements.delete
  unfold Statements.getMultipleTemplate Statements.deleteMultipleTemplate
  simp only [String.append_assoc]
  exact ⟨h.keyed hselect hone, singleLine_append.mpr ⟨hselect, h.quotedTable⟩,
    h.keyed hselect hmany, h.insertWith hnone _,
    singleLine_append.mpr ⟨h.insertWith hmark false, hend⟩, h.updateWith hnone,
    singleLine_append.mpr ⟨h.updateWith hmark, hend⟩, h.keyed hdelete hone,
    h.keyed hdelete hmany, singleLine_param h.key hmark, List.forall_mem_nil _⟩

end SingleLineNames

/-- The statements of an accepted table have the names of the table and of its columns. The key
that a table without one is given has a name on one line. -/
theorem singleLineNames (hm : Model.build t database b = .ok m)
    (hnames : ∀ name ∈ t.name :: t.columns.map (·.name), SingleLine name) :
    SingleLineNames m.statements := by
  obtain ⟨htable, hcolumns⟩ := List.forall_mem_cons.mp hnames
  have hcolumn : ∀ c ∈ t.columns, SingleLine c.name := fun c hc =>
    hcolumns c.name (List.mem_map_of_mem hc)
  rw [Model.statements_of_build hm, Model.key_of_build hm]
  refine ⟨htable, ?_, fun name hname => ?_⟩
  · change SingleLine (Key.ofTable t).name
    obtain ⟨c, hc, hkey⟩ | hkey := Key.name_ofTable t
    · exact hkey ▸ hcolumn c hc
    · rw [hkey]
      decide +kernel
  · obtain ⟨⟨c, hc, rfl⟩, -⟩ := Statements.mem_columns_ofTable.mp hname
    exact hcolumn c hc

/-- Of the lines that declare constants, those for texts are read as the statements. -/
theorem filterMap_constant? {m : Model} (h : SingleLineNames m.statements) :
    (Step.allTexts (Access.constants m)).filterMap constant? =
      (Access.queries m.statements).map fun q => (q.1, Text.units q.2) := by
  have hqueries : ∀ q ∈ Access.queries m.statements,
      constant? s!"private const string {q.1} = {literal q.2};" = some (q.1, Text.units q.2) := by
    have hwords : ∀ name ∈ (Access.queries m.statements).map (·.1),
        name ≠ "" ∧ ' ' ∉ name.toList := by
      change ∀ name ∈ ["GetQuery", "GetAllQuery", "GetMultipleQuery", "InsertQuery",
        "InsertRowTemplate", "UpdateQuery", "UpdateRowTemplate", "DeleteQuery",
        "DeleteMultipleQuery", "IdParamTemplate"], name ≠ "" ∧ ' ' ∉ name.toList
      decide +kernel
    intro q hq
    obtain ⟨hne, hspace⟩ := hwords q.1 (List.mem_map_of_mem hq)
    exact constant?_declaration hne hspace (h.queries q hq)
  have hsizes : ∀ c ∈ Access.chunkSizes m,
      constant? s!"private const int {c.1} = {c.2};" = none := fun c _ =>
    constant?_number c.1 (toString c.2)
  simp only [Access.constants, Step.allTexts_cons, Step.texts_lines, Step.texts_blank,
    Step.allTexts_nil, List.nil_append, List.append_nil, List.filterMap_append,
    List.filterMap_map]
  have hread := List.filterMap_congr hqueries
  have hskip := List.filterMap_eq_nil_iff.mpr hsizes
  simp only [Function.comp_def]
  rw [hread, hskip, List.append_nil, List.filterMap_eq_map']

/-- A literal is taken off the front of any text that it begins, and denotes the text that it was
made from and no other. So the constants of the data-access class denote the statements. -/
theorem constants_denote_statements :
    (∀ s, literal s =
      "\"" ++ Text.replace "\"" "\\\"" (Text.replace "\\" "\\\\" s) ++ "\"") ∧
    (∀ s r, SingleLine s → read (literal s ++ r).toList = some (Text.units s, r.toList)) ∧
    (∀ s t, Text.units s = Text.units t → s = t) ∧
    ∀ t database b m, Model.build t database b = .ok m →
      (∀ name ∈ t.name :: t.columns.map (·.name), SingleLine name) →
      (Step.allTexts (Access.constants m)).filterMap constant? =
        (Access.queries m.statements).map fun q => (q.1, Text.units q.2) := by
  refine ⟨literal_eq_replace, fun s r hs => ?_, fun s t h => Text.units_injective h,
    fun t database b m hm hnames => filterMap_constant? (singleLineNames hm hnames)⟩
  rw [String.toList_append]
  exact read_literal hs r.toList

/-- A text with a backslash next to its closing quote, and the statement that gets a user. -/
theorem user_constants_denote_statements :
    read (literal "\"C:\\" ++ ";").toList = some (Text.units "\"C:\\", ";".toList) ∧
      ∃ m, Model.build Model.userTable "Main" {} = .ok m ∧
        (∀ name ∈ Model.userTable.name :: Model.userTable.columns.map (·.name),
          SingleLine name) ∧
        ((Step.allTexts (Access.constants m)).filterMap constant?).lookup "GetQuery" =
          some (Text.units "SELECT * FROM [Users] WHERE [Id] = @Id") := by
  obtain ⟨-, hread, -, hconstants⟩ := constants_denote_statements
  have hnames : ∀ name ∈ Model.userTable.name :: Model.userTable.columns.map (·.name),
      SingleLine name := by decide +kernel
  have hbuild := Model.build_userTable "Main" {}
  refine ⟨hread _ _ (by decide +kernel), _, hbuild, hnames, ?_⟩
  rw [hconstants _ _ _ _ hbuild hnames]
  decide +kernel

end Scaffold.Backend.StringLiteral
