import Scaffold.Proofs.Backend.Constants
import Scaffold.Proofs.Backend.Methods
import Scaffold.Proofs.Batch.Covering
import Scaffold.Proofs.Model
import Scaffold.Proofs.Statement.Rendering

/-! What the bulk methods of a data-access class issue, from its constants, loops, workers and
helpers. -/
namespace Scaffold.Backend.Access

open Statements (rowMark)

variable {α : Type} {m : Model} {op : Bulk} {v : Connection}

def getRange (items : List α) (start count : Nat) : List α := (items.drop start).take count

/-- What the chunk loop yields when it stands at `start`. A loop that makes no progress yields
nothing that could be listed. -/
inductive Yields (size : Nat) (items : List α) : Nat → List (List α) → Prop
  | done {start : Nat} (h : items.length ≤ start) : Yields size items start []
  | next {start : Nat} {pieces : List (List α)} (h : start < items.length)
      (rest : Yields size items (start + size) pieces) :
      Yields size items start (getRange items start (min size (items.length - start)) :: pieces)

theorem Yields.unique {size start : Nat} {items : List α} {ps qs : List (List α)}
    (h : Yields size items start ps) (k : Yields size items start qs) : ps = qs := by
  induction h generalizing qs with
  | done hstop =>
    cases k with
    | done => rfl
    | next hgo => omega
  | next hgo rest ih =>
    cases k with
    | done hstop => omega
    | next _ rest' => rw [ih rest']

/-- The loop yields the chunks of a covering in which all but the last are full. -/
theorem yields_of_covers {size : Nat} {items : List α} {cs : List Batch.Chunk} {start : Nat}
    (h : Batch.Covers start items.length cs) (hfull : ∀ c ∈ cs.dropLast, c.len = size)
    (hle : ∀ c ∈ cs, c.len ≤ size) :
    Yields size items start (cs.map fun c => getRange items c.start c.len) := by
  induction cs generalizing start with
  | nil =>
    have hstart : start = items.length := h
    exact .done (Nat.le_of_eq hstart.symm)
  | cons c rest ih =>
    obtain ⟨rfl, hpos, hrest⟩ := h
    have hstop := hrest.start_le
    unfold Batch.Chunk.stop at hstop
    have hgo : c.start < items.length := by omega
    -- A chunk with others behind it is full; the last one reaches the end of the items.
    obtain ⟨hpiece, htail⟩ : min size (items.length - c.start) = c.len ∧
        Yields size items (c.start + size) (rest.map fun c => getRange items c.start c.len) := by
      cases rest with
      | nil =>
        have hlast : c.start + c.len = items.length := hrest
        have hlen := hle c (by simp)
        exact ⟨by omega, .done (by omega)⟩
      | cons d ds =>
        have hlen : c.len = size := hfull c (by simp)
        have htail := ih hrest (fun e he => hfull e (by simp [he]))
          fun e he => hle e (List.mem_cons_of_mem c he)
        rw [Batch.Chunk.stop, hlen] at htail
        exact ⟨by omega, htail⟩
    have hnext := Yields.next hgo htail
    rw [hpiece] at hnext
    exact hnext

theorem yields_plan (items : List α) (perItem budget : Nat) :
    Yields (Batch.maxLen perItem budget) items 0
      ((Batch.plan items.length perItem budget).map fun c => getRange items c.start c.len) :=
  yields_of_covers (Batch.covers_plan items.length perItem budget)
    (fun _ => Batch.len_of_mem_dropLast_plan) fun _ => Batch.len_le_maxLen

/-- The helper that cuts items into chunks. -/
def chunkHelper : String × List Step := (
  "private static IEnumerable<List<TItem>> Chunk<TItem>(List<TItem> items, int chunkSize)",
  [ .braces "for (int start = 0; start < items.Count; start += chunkSize)" [
      .line "yield return items.GetRange(start, Math.Min(chunkSize, items.Count - start));"]])

/-- The helper that lists the parameters of so many keys. -/
def idListHelper : String × List Step := (
  "private static string IdList(int count)",
  [ .line ("return string.Join(\",\", Enumerable.Range(0, count).Select(i => " ++
      "IdParamTemplate.Replace(\"\x7bi\x7d\", i.ToString())" ++ "));")])

/-- The helper that repeats the statement of a row. -/
def renderRowsHelper : String × List Step := (
  "private static string RenderRows(string rowTemplate, int count)",
  [ .line "var query = new StringBuilder();",
    .braces "for (int i = 0; i < count; i++)" [
      .line "if (i > 0) query.Append(' ');",
      .line "query.Append(rowTemplate.Replace(\"\x7bi\x7d\", i.ToString()));"],
    .line "return query.ToString();"])

theorem helpers_eq : helpers = [
    .braces idListHelper.1 idListHelper.2, .blank,
    .braces renderRowsHelper.1 renderRowsHelper.2, .blank,
    .braces chunkHelper.1 chunkHelper.2, .blank] := by
  have hid : s!"IdParamTemplate.Replace({literal rowMark}, i.ToString())" =
      "IdParamTemplate.Replace(\"\x7bi\x7d\", i.ToString())" := by decide +kernel
  have hrow : s!"query.Append(rowTemplate.Replace({literal rowMark}, i.ToString()));" =
      "query.Append(rowTemplate.Replace(\"\x7bi\x7d\", i.ToString()));" := by decide +kernel
  unfold helpers idListHelper renderRowsHelper chunkHelper
  dsimp only
  rw [hid, hrow]
  rfl

theorem hasMember_helper {helper : String × List Step}
    (h : helper ∈ [idListHelper, renderRowsHelper, chunkHelper]) :
    HasMember m helper.1 helper.2 := by
  refine hasMember_of_mem (.inr (.inr (.inr ?_)))
  rw [helpers_eq]
  simp only [List.mem_cons, List.not_mem_nil, or_false] at h
  rcases h with rfl | rfl | rfl <;>
    simp only [Step.allBlocks_braces_cons, Step.allBlocks_blank_cons, List.cons_append,
      List.mem_cons, List.mem_append, true_or, or_true]

/-- The parameters of so many keys, each from the template of one with its number put in. -/
def idList (template : String) (count : Nat) : String :=
  ",".intercalate ((List.range count).map fun i => Text.replace "\x7bi\x7d" (toString i) template)

/-- A row is appended behind the rows before it, with a space in front unless it is the first. -/
def appendRow (template query : String) (i : Nat) : String :=
  (if i > 0 then query ++ " " else query) ++ Text.replace "\x7bi\x7d" (toString i) template

def appendRows (template : String) (count : Nat) : String :=
  (List.range count).foldl (appendRow template) ""

/-- The text that a worker's expression stands for when so many items are sent. There is none
without the constants and the helper. -/
inductive Value (m : Model) (count : Nat) : String → String → Prop
  | listing {query text template : String} (hquery : HasText m query text)
      (htemplate : HasText m "IdParamTemplate" template)
      (hhelper : HasMember m idListHelper.1 idListHelper.2) :
      Value m count (query ++ ".Replace(\"\x7bids\x7d\", IdList(ids.Count))")
        (Text.replace "\x7bids\x7d" (idList template count) text)
  | repeating {name template : String} (htemplate : HasText m name template)
      (hhelper : HasMember m renderRowsHelper.1 renderRowsHelper.2) :
      Value m count ("RenderRows(" ++ name ++ ", items.Count)") (appendRows template count)

/-- A bulk method on the items issues one command for each piece that its loop yields. The loop
names the constant for the size of the pieces and the worker that they are given to, and the worker
runs a command whose text is what its expression stands for. -/
inductive Issues (m : Model) (op : Bulk) (v : Connection) (items : List α) :
    List (List α × String) → Prop
  | intro {method body steps : List Step} {constant worker expression : String} {size : Nat}
      {pieces : List (List α)} {issued : List (List α × String)}
      (hmethod : HasMember m ((BulkShape.of m op).methodHeader op v) method)
      (hloop : (loopHeader (BulkShape.of m op).input constant,
        [.line (collect (BulkShape.of m op) worker)]) ∈ Step.allBlocks method)
      (hsize : HasSize m constant size)
      (hchunk : HasMember m chunkHelper.1 chunkHelper.2)
      (hpieces : Yields size items 0 pieces)
      (hworker : HasMember m ((BulkShape.of m op).workerHeader worker) body)
      (hcommand : (commandHeader expression, steps) ∈ Step.allBlocks body)
      (hissued : List.Forall₂ (fun piece e => e.1 = piece ∧ Value m piece.length expression e.2)
        pieces issued) :
      Issues m op v items issued

/-- Joined rows grow by one row like appended ones. -/
theorem renderRows_succ (template : String) (n : Nat) :
    Statements.renderRows template (n + 1) =
      appendRow template (Statements.renderRows template n) n := by
  unfold Statements.renderRows appendRow rowMark
  rw [List.range_succ, List.map_append]
  rcases Nat.eq_zero_or_pos n with rfl | hpos
  · simp
  · have hne :
        (List.range n).map (fun i => Text.replace "\x7bi\x7d" (toString i) template) ≠ [] := by
      simp [Nat.ne_of_gt hpos]
    rw [if_pos hpos, String.intercalate_append_of_ne_nil hne (by simp), List.map_singleton,
      String.intercalate_singleton]

theorem appendRows_eq (template : String) (count : Nat) :
    appendRows template count = Statements.renderRows template count := by
  induction count with
  | zero => rfl
  | succ n ih =>
    rw [renderRows_succ, ← ih, appendRows, List.range_succ, List.foldl_append]
    rfl

theorem idList_idTemplate (h : ¬ rowMark.toList <:+: m.statements.key.toList) (count : Nat) :
    idList m.statements.idTemplate count = m.statements.idList count := by
  have hname : ¬ rowMark.toList <:+: ("@" ++ m.statements.key).toList := by
    have hmark : rowMark.toList = ['\x7b', 'i', '\x7d'] := by decide
    have hlist : ("@" ++ m.statements.key).toList = '@' :: m.statements.key.toList := by simp
    rw [hlist, List.infix_cons_iff]
    rintro (hfront | hin)
    · rw [hmark, List.cons_prefix_cons] at hfront
      exact absurd hfront.1 (by decide)
    · exact h hin
  have hids : ∀ i : Nat, Text.replace rowMark (toString i) m.statements.idTemplate =
      Statements.param m.statements.key (toString i) := fun i => Statements.fill_rowMark hname _
  change ",".intercalate ((List.range count).map fun i =>
    Text.replace rowMark (toString i) m.statements.idTemplate) = _
  simp only [hids]
  rfl

theorem listing_ne_repeating (query name : String) :
    query ++ ".Replace(\"\x7bids\x7d\", IdList(ids.Count))" ≠
      "RenderRows(" ++ name ++ ", items.Count)" := by
  intro h
  have hlast := congrArg (fun text => text.toList.reverse[1]?) h
  simp at hlast

theorem value_listing_iff {query q text : String} {count : Nat}
    (h : (query, q) ∈ queries m.statements) :
    Value m count (query ++ ".Replace(\"\x7bids\x7d\", IdList(ids.Count))") text ↔
      text = Text.replace "\x7bids\x7d" (idList m.statements.idTemplate count) q := by
  have hid : ∀ {template}, HasText m "IdParamTemplate" template ↔
      template = m.statements.idTemplate := hasText_iff (by simp [queries])
  constructor
  · intro hvalue
    generalize hexpression : query ++ ".Replace(\"\x7bids\x7d\", IdList(ids.Count))" = e at hvalue
    cases hvalue with
    | listing hquery htemplate _ =>
      obtain rfl := (String.append_left_inj _).mp hexpression
      rw [(hasText_iff h).mp hquery, hid.mp htemplate]
    | repeating => exact absurd hexpression (listing_ne_repeating _ _)
  · rintro rfl
    exact .listing ((hasText_iff h).mpr rfl) (hid.mpr rfl) (hasMember_helper (by simp))

theorem value_repeating_iff {name t text : String} {count : Nat}
    (h : (name, t) ∈ queries m.statements) :
    Value m count ("RenderRows(" ++ name ++ ", items.Count)") text ↔
      text = appendRows t count := by
  constructor
  · intro hvalue
    generalize hexpression : "RenderRows(" ++ name ++ ", items.Count)" = e at hvalue
    cases hvalue with
    | listing => exact absurd hexpression.symm (listing_ne_repeating _ _)
    | repeating htemplate _ =>
      obtain rfl := (String.append_right_inj _).mp ((String.append_left_inj _).mp hexpression)
      rw [(hasText_iff h).mp htemplate]
  · rintro rfl
    exact .repeating ((hasText_iff h).mpr rfl) (hasMember_helper (by simp))

/-- A worker builds the text of its chunk. -/
theorem value_chunkQuery_iff (h : ¬ rowMark.toList <:+: m.statements.key.toList) (op : Bulk)
    (count : Nat) (text : String) :
    Value m count (chunkQuery op) text ↔ text = m.statements.render op count := by
  cases op with
  | getMultiple =>
    have hquery : chunkQuery .getMultiple =
        "GetMultipleQuery" ++ ".Replace(\"\x7bids\x7d\", IdList(ids.Count))" := by decide +kernel
    rw [hquery, value_listing_iff (q := m.statements.getMultipleTemplate) (by simp [queries]),
      idList_idTemplate h]
    rfl
  | insertMultiple =>
    have hquery : chunkQuery .insertMultiple =
        "RenderRows(" ++ "InsertRowTemplate" ++ ", items.Count)" := by decide +kernel
    rw [hquery, value_repeating_iff (t := m.statements.insertRowTemplate)
      (by simp [queries]), appendRows_eq]
    rfl
  | updateMultiple =>
    have hquery : chunkQuery .updateMultiple =
        "RenderRows(" ++ "UpdateRowTemplate" ++ ", items.Count)" := by decide +kernel
    rw [hquery, value_repeating_iff (t := m.statements.updateRowTemplate)
      (by simp [queries]), appendRows_eq]
    rfl
  | deleteMultiple =>
    have hquery : chunkQuery .deleteMultiple =
        "DeleteMultipleQuery" ++ ".Replace(\"\x7bids\x7d\", IdList(ids.Count))" := by
      decide +kernel
    rw [hquery, value_listing_iff (q := m.statements.deleteMultipleTemplate) (by simp [queries]),
      idList_idTemplate h]
    rfl

theorem length_getRange {items : List α} {start count : Nat} (h : start + count ≤ items.length) :
    (getRange items start count).length = count := by
  rw [getRange, List.length_take, List.length_drop]
  omega

/-- The only run of a bulk method issues the texts of its pieces. -/
theorem issues_iff_yields (h : ¬ rowMark.toList <:+: m.statements.key.toList) (op : Bulk)
    (v : Connection) (items : List α) (issued : List (List α × String)) :
    Issues m op v items issued ↔ ∃ pieces, Yields (m.chunkSize v op) items 0 pieces ∧
      pieces.map (fun piece => (piece, m.statements.render op piece.length)) = issued := by
  have htexts : ∀ pieces : List (List α),
      List.Forall₂ (fun piece e => e.1 = piece ∧ Value m piece.length (chunkQuery op) e.2)
        pieces issued ↔
      pieces.map (fun piece => (piece, m.statements.render op piece.length)) = issued := by
    intro pieces
    have hpiece : ∀ (piece : List α) (e : List α × String),
        (e.1 = piece ∧ Value m piece.length (chunkQuery op) e.2) ↔
          (piece, m.statements.render op piece.length) = e := by
      intro piece e
      rw [value_chunkQuery_iff h, Prod.ext_iff, eq_comm, @eq_comm _ e.2]
    simp only [hpiece]
    rw [← List.forall₂_map_left_iff (R := Eq), List.forall₂_eq_eq_eq]
  constructor
  · rintro ⟨hmethod, hloop, hsize, -, hpieces, hworker, hcommand, hissued⟩
    have hmem := Step.mem_headed.mpr ⟨hloop, loopHeader_starts _ _⟩
    obtain rfl := eq_methodBody hmethod (List.ne_nil_of_mem hmem)
    rw [← loops, loops_methodBody, List.mem_singleton] at hmem
    obtain ⟨hheader, hcall⟩ := Prod.mk.inj hmem
    obtain rfl := loopHeader_inj hheader
    obtain rfl := collect_inj (Step.line.inj (List.singleton_inj.mp hcall))
    obtain rfl := hasSize_iff.mp hsize
    obtain rfl := eq_workerBody hworker
    have hrun := Step.mem_headed.mpr ⟨hcommand, commandHeader_starts _⟩
    rw [← commands, commands_workerBody, List.mem_singleton] at hrun
    obtain rfl := commandHeader_inj.mp (Prod.mk.inj hrun).1
    exact ⟨_, hpieces, (htexts _).mp hissued⟩
  · rintro ⟨pieces, hpieces, hissued⟩
    have hloop := (Step.mem_headed.mp (loops_methodBody (m := m) op v ▸ List.mem_cons_self)).1
    have hcommand := (Step.mem_headed.mp (commands_workerBody (m := m) op ▸ List.mem_cons_self)).1
    exact .intro (hasMember_method op v) hloop (hasSize_iff.mpr rfl) (hasMember_helper (by simp))
      hpieces (hasMember_worker op) hcommand ((htexts pieces).mpr hissued)

/-- The pieces of a plan with the texts for their lengths are the planned statements. -/
theorem render_pieces (s : Statements) (b : ParamBudget) (op : Bulk) (v : Connection)
    (items : List α) :
    ((Batch.plan items.length (b.paramsPerItem op v s.counts) b.budget).map fun c =>
        getRange items c.start c.len).map (fun piece => (piece, s.render op piece.length)) =
      (s.planned b op v items.length).map fun e => (getRange items e.1.start e.1.len, e.2) := by
  rw [Statements.planned, ParamBudget.plan, List.map_map, List.map_map]
  refine List.map_congr_left fun c hc => ?_
  have hstop : c.start + c.len ≤ items.length :=
    (Batch.covers_plan items.length _ b.budget).stop_le_of_mem hc
  simp only [Function.comp_apply, length_getRange hstop]

/-- A bulk method of an emitted class issues the planned statements, each with the items of its
chunk, in the order of the plan and nothing else. -/
theorem issues_iff_planned {t : Table} {database : String} {b : ParamBudget} {m : Model}
    (hm : Model.build t database b = .ok m) (hkey : ¬ rowMark.toList <:+: m.key.name.toList)
    (op : Bulk) (v : Connection) (items : List α) (issued : List (List α × String)) :
    Issues m op v items issued ↔
      issued = (m.statements.planned b op v items.length).map fun e =>
        (getRange items e.1.start e.1.len, e.2) := by
  have hname : m.statements.key = m.key.name := by rw [Model.statements_of_build hm]; rfl
  have hyields := yields_plan items (b.paramsPerItem op v m.statements.counts) b.budget
  have hsize : m.chunkSize v op =
      Batch.maxLen (b.paramsPerItem op v m.statements.counts) b.budget := by
    rw [Model.chunkSize, Model.budget_of_build hm]
    rfl
  have hplanned := render_pieces m.statements b op v items
  rw [← hsize] at hyields
  rw [issues_iff_yields (hname ▸ hkey)]
  constructor
  · rintro ⟨pieces, hpieces, rfl⟩
    rw [hpieces.unique hyields, hplanned]
  · rintro rfl
    exact ⟨_, hyields, hplanned⟩

/-- Three keys take two commands under a budget of two parameters. -/
theorem issues_of_three_keys :
    ∃ m, Model.build Model.userTable "Main" { budget := 2 } = .ok m ∧
      ¬ rowMark.toList <:+: m.key.name.toList ∧
      Issues m .deleteMultiple .ambient [7, 8, 9]
        [([7, 8], m.statements.render .deleteMultiple 2),
          ([9], m.statements.render .deleteMultiple 1)] := by
  have hbuild := Model.build_userTable "Main" { budget := 2 }
  have hkey : ¬ rowMark.toList <:+:
      (Model.derived Model.userTable "Main" { budget := 2 }).key.name.toList := by decide +kernel
  exact ⟨_, hbuild, hkey,
    (issues_iff_planned hbuild hkey .deleteMultiple .ambient [7, 8, 9] _).mpr rfl⟩

end Scaffold.Backend.Access
