import Scaffold.Proofs.Backend.Bindings

/-! The commands of the data-access class, and the parameters that running one adds to it. -/
namespace Scaffold.Backend.Access

variable {m : Model}

def commandHeader (query : String) : String :=
  s!"using (var sqlCommand = new SqlCommand({query}, connection, transaction))"

/-- Only headers of commands begin like that. -/
def commandStart : String := "using (var sqlCommand = "

/-- The blocks that open a command, with their headers. -/
abbrev commands (ss : List Step) : List (String × List Step) := Step.headed commandStart ss

theorem commandHeader_starts (query : String) :
    commandStart.toList <+: (commandHeader query).toList := by
  have hheader : commandHeader query = "using (var sqlCommand = new SqlCommand(" ++
      (query ++ ", connection, transaction))") := String.append_assoc
  rw [hheader]
  exact Text.starts_append (by decide +kernel) _

theorem commandHeader_inj {q q' : String} : commandHeader q = commandHeader q' ↔ q = q' := by
  refine ⟨fun h => ?_, fun h => h ▸ rfl⟩
  exact (String.append_right_inj _).mp ((String.append_left_inj _).mp h)

@[simp] theorem commands_command_cons (query : String) (body ss : List Step) :
    commands (command query body :: ss) =
      (commandHeader query, body) :: commands body ++ commands ss :=
  Step.headed_braces_cons_of_starts (commandHeader_starts query) body ss

theorem commands_single (bs : List Binding) : commands (bs.map Binding.single) = [] :=
  Step.headed_map_line _ bs

theorem commands_indexed (bs : List Binding) : commands (bs.map Binding.indexed) = [] :=
  Step.headed_map_line _ bs

theorem commands_emptyGuard (s : BulkShape) : commands s.emptyGuard = [] := by
  simp (disch := decide +kernel) only [BulkShape.emptyGuard, toString, String.append_assoc,
    Step.headed_braces_append_cons, Step.headed_line_cons, Step.headed_blank_cons, Step.headed_nil,
    List.append_nil]

theorem commands_loop (s : BulkShape) (op : Bulk) (v : Connection) :
    commands (s.loop op v) = [] := by
  simp (disch := decide +kernel) only [BulkShape.loop, toString, String.append_assoc,
    Step.headed_braces_append_cons, Step.headed_line_cons, Step.headed_nil, List.append_nil]

theorem commands_ambientScope_cons (body ss : List Step) :
    commands (ambientScope m body :: ss) = commands body ++ commands ss := by
  simp (disch := decide +kernel) only [ambientScope, toString, String.append_assoc,
    Step.headed_braces_append_cons, Step.headed_braces_cons, Step.headed_line_cons, Step.headed_nil,
    List.append_nil]

theorem commands_ambientMethods : commands (ambientMethods m) = [] := by
  simp (disch := decide +kernel) [ambientMethods, toString, String.append_assoc,
    Step.headed_braces_append_cons, commands_ambientScope_cons, commands_emptyGuard, commands_loop]

theorem commands_insertResult : commands (insertResult m) = [] := by
  unfold insertResult executeCount
  split <;> simp

theorem commands_suppliedMethods :
    commands (suppliedMethods m) = [
      (commandHeader "GetQuery", [(idBinding m).single, fillTable]),
      (commandHeader "GetAllQuery", [fillTable]),
      (commandHeader "InsertQuery",
        (insertBindings m).map Binding.single ++ .blank :: insertResult m),
      (commandHeader "UpdateQuery",
        (updateBindings m).map Binding.single ++ [.blank, executeCount]),
      (commandHeader "DeleteQuery", [(idBinding m).single, executeCount])] := by
  simp (disch := decide +kernel) [suppliedMethods, newTable, fillTable, executeCount, allRows,
    Binding.single, toString, String.append_assoc, Step.headed_braces_append_cons, commands_single,
    commands_insertResult, commands_emptyGuard, commands_loop]

/-- The loop over the rows of a chunk. -/
def rowLoop (input : String) : String := s!"for (int i = 0; i < {input}.Count; i++)"

/-- The steps of the command that a chunk worker runs. -/
def chunkBody (m : Model) (op : Bulk) : List Step :=
  let shape := BulkShape.of m op
  [ .braces (rowLoop shape.input) ((rowBindings m op).map Binding.indexed),
    if shape.collectsRows then fillTable else executeCount]

theorem commands_rowLoop_cons (input : String) (body ss : List Step) :
    commands (.braces (rowLoop input) body :: ss) = commands body ++ commands ss := by
  have hheader : rowLoop input = "for (int i = 0; i < " ++ (input ++ ".Count; i++)") :=
    String.append_assoc
  rw [hheader]
  exact Step.headed_braces_append_cons (by decide) _ body ss

theorem commands_chunkBody (op : Bulk) : commands (chunkBody m op) = [] := by
  unfold chunkBody fillTable executeCount
  dsimp only
  rw [commands_rowLoop_cons, commands_indexed, List.nil_append]
  split <;> exact Step.headed_line_cons _ []

def BulkShape.workerHeader (s : BulkShape) (worker : String) : String :=
  s!"private {s.returns} {worker}({s.inputDeclaration}, {suppliedParams})"

/-- The steps of a chunk worker. -/
def workerBody (m : Model) (op : Bulk) : List Step :=
  let shape := BulkShape.of m op
  (if shape.collectsRows then [newTable] else []) ++ [command (chunkQuery op) (chunkBody m op)] ++
    if shape.collectsRows then [.blank, allRows m] else []

theorem chunkWorker_eq (m : Model) (op : Bulk) :
    chunkWorker m op =
      [ .braces ((BulkShape.of m op).workerHeader (BulkShape.worker op)) (workerBody m op),
        .blank] := rfl

theorem commands_workerBody (op : Bulk) :
    commands (workerBody m op) = [(commandHeader (chunkQuery op), chunkBody m op)] := by
  cases h : (BulkShape.of m op).collectsRows <;>
    simp [workerBody, h, newTable, allRows, commands_chunkBody]

theorem commands_chunkWorker (op : Bulk) :
    commands (chunkWorker m op) = [(commandHeader (chunkQuery op), chunkBody m op)] := by
  have hheader : ∀ s : BulkShape, ∀ worker, Text.differs commandStart (s.workerHeader worker) := by
    intro s worker
    unfold BulkShape.workerHeader
    repeat with_reducible apply Text.differs_append
    exact Text.differs_ofList (by decide)
  rw [chunkWorker_eq, commands, Step.headed_braces_cons (hheader _ _)]
  simp [commands_workerBody]

theorem commands_helpers : commands helpers = [] := by
  simp (disch := decide +kernel) [helpers, Step.headed_braces_cons]

theorem commands_region (name : String) (body : List Step) :
    commands (region name body) = commands body := by
  simp [region]

/-- The class runs a command for each statement, and no other one. -/
theorem commands_access :
    commands (access m) = commands (suppliedMethods m) ++
      [Bulk.getMultiple, .deleteMultiple, .insertMultiple, .updateMultiple].map fun op =>
        (commandHeader (chunkQuery op), chunkBody m op) := by
  simp (disch := decide +kernel) [access, constants, toString, Step.headed_braces_append_cons,
    commands_region, commands_ambientMethods, chunkWorkers, commands_chunkWorker,
    commands_helpers]

/-- What binding lines add in the loop over the rows: row by row, each parameter with the number of
the row behind its name. -/
def rowParameters (bs : List Binding) (rows : Nat) : List String :=
  (List.range rows).flatMap fun i => bs.map fun b => b.parameter ++ toString i

theorem rowParameters_nil (rows : Nat) : rowParameters [] rows = [] :=
  List.flatMap_eq_nil_iff.mpr fun _ _ => rfl

/-- What running the steps of a command adds to it, in order, when so many rows are sent. -/
inductive Adds (rows : Nat) : List Step → List String → Prop
  | done : Adds rows [] []
  | bind (b : Binding) {ss : List Step} {names : List String} (rest : Adds rows ss names) :
      Adds rows (b.single :: ss) (b.parameter :: names)
  | loop (input : String) (bs : List Binding) {ss : List Step} {names : List String}
      (rest : Adds rows ss names) :
      Adds rows (.braces (rowLoop input) (bs.map Binding.indexed) :: ss)
        (rowParameters bs rows ++ names)
  | skip {s : Step} {ss : List Step} {names : List String}
      (h : ∀ line ∈ s.texts, ∀ (b : Binding) (p : Place), b.text p ≠ line)
      (rest : Adds rows ss names) : Adds rows (s :: ss) names

namespace Adds

variable {rows : Nat} {names names' : List String} {ss : List Step}

theorem single_inj {b c : Binding} (h : b.single = c.single) : b = c := by
  have htexts := congrArg Step.texts h
  rw [Binding.texts_single, Binding.texts_single, List.singleton_inj] at htexts
  exact (Binding.text_injective htexts).1

theorem map_indexed_inj {bs cs : List Binding}
    (h : bs.map Binding.indexed = cs.map Binding.indexed) : bs = cs := by
  refine (List.map_inj_right fun b c hbc => ?_).mp h
  have htexts := congrArg Step.texts hbc
  rw [Binding.texts_indexed, Binding.texts_indexed, List.singleton_inj] at htexts
  exact (Binding.text_injective htexts).1

/-- Steps add the same parameters in every run. -/
theorem unique (h : Adds rows ss names) (k : Adds rows ss names') : names = names' := by
  induction h generalizing names' with
  | done =>
    cases k
    rfl
  | @bind b ss names rest ih =>
    generalize hsteps : b.single :: ss = steps at k
    cases k with
    | done => contradiction
    | bind c rest' =>
      obtain ⟨hs, rfl⟩ := List.cons.inj hsteps
      rw [single_inj hs, ih rest']
    | loop input cs rest' =>
      exact absurd (List.cons.inj hsteps).1 (by simp [Binding.single, Step.braces])
    | skip hskip rest' =>
      obtain ⟨rfl, rfl⟩ := List.cons.inj hsteps
      exact absurd rfl (hskip _ (by simp) b .alone)
  | @loop input bs ss names rest ih =>
    generalize hsteps : Step.braces (rowLoop input) (bs.map Binding.indexed) :: ss = steps at k
    cases k with
    | done => contradiction
    | bind c rest' =>
      exact absurd (List.cons.inj hsteps).1 (by simp [Binding.single, Step.braces])
    | loop input' cs rest' =>
      obtain ⟨hs, rfl⟩ := List.cons.inj hsteps
      obtain ⟨-, -, hmap⟩ := Step.block.inj hs
      rw [map_indexed_inj hmap, ih rest']
    | skip hskip rest' =>
      obtain ⟨rfl, rfl⟩ := List.cons.inj hsteps
      cases bs with
      | nil =>
        rw [rowParameters_nil, List.nil_append]
        exact ih rest'
      | cons b bs => exact absurd rfl (hskip _ (by simp [Step.allTexts_cons]) b .indexed)
  | @skip s ss names hskip rest ih =>
    generalize hsteps : s :: ss = steps at k
    cases k with
    | done => contradiction
    | bind c rest' =>
      obtain ⟨rfl, rfl⟩ := List.cons.inj hsteps
      exact absurd rfl (hskip _ (by simp) c .alone)
    | loop input cs rest' =>
      obtain ⟨rfl, rfl⟩ := List.cons.inj hsteps
      cases cs with
      | nil =>
        rw [rowParameters_nil, List.nil_append]
        exact ih rest'
      | cons c cs => exact absurd rfl (hskip _ (by simp [Step.allTexts_cons]) c .indexed)
    | skip _ rest' =>
      obtain ⟨rfl, rfl⟩ := List.cons.inj hsteps
      exact ih rest'

theorem singles (bs : List Binding) (rest : Adds rows ss names) :
    Adds rows (bs.map Binding.single ++ ss) (bs.map Binding.parameter ++ names) := by
  induction bs with
  | nil => exact rest
  | cons b bs ih => exact .bind b ih

theorem skip_plain {text : String} (h : Plain text) (rest : Adds rows ss names) :
    Adds rows (.line text :: ss) names := by
  refine .skip (fun line hline b p heq => ?_) rest
  obtain rfl : line = text := by simpa using hline
  exact b.not_plain_text p (heq ▸ h)

theorem skip_blank (rest : Adds rows ss names) : Adds rows (.blank :: ss) names :=
  .skip (by simp) rest

theorem insertResult : Adds rows (Access.insertResult m) [] := by
  have hskip : ∀ {text}, Plain text → Adds rows [.line text] [] := fun h => skip_plain h .done
  unfold Access.insertResult executeCount
  split
  · refine skip_plain (plain_ofList (by decide) (by decide)) (hskip ?_)
    exact plain_ofList (by decide) (by decide)
  · exact hskip (plain_ofList (by decide) (by decide))

theorem executeCount : Adds rows [Access.executeCount] [] :=
  skip_plain (plain_ofList (by decide) (by decide)) .done

theorem chunkBody (op : Bulk) :
    Adds rows (Access.chunkBody m op) (rowParameters (rowBindings m op) rows) := by
  rw [← List.append_nil (rowParameters (rowBindings m op) rows)]
  refine .loop _ _ ?_
  split
  · exact skip_plain (plain_ofList (by decide) (by decide)) .done
  · exact executeCount

end Adds

end Scaffold.Backend.Access
