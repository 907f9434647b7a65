import Scaffold.Proofs.Backend.Commands

/-! The bulk methods, chunk workers and helpers of the data-access class, found by their headers. -/
namespace Scaffold.Backend.Access

variable {m : Model} {op op' : Bulk} {v v' : Connection} {body : List Step}

/-- The class has a member with that header, and this is what it does. -/
def HasMember (m : Model) (header : String) (body : List Step) : Prop :=
  (header, body) ∈ Step.allBlocks (access m)

def BulkShape.methodHeader (s : BulkShape) (op : Bulk) : Connection → String
  | .ambient => s!"public {s.returns} {op.text}({s.inputDeclaration})"
  | .supplied =>
    let params := s!"{s.inputDeclaration}, {suppliedParams}"
    s!"public {s.returns} {op.text}WithTransaction({params})"

/-- The steps of a bulk method. -/
def methodBody (m : Model) (op : Bulk) (v : Connection) : List Step :=
  let shape := BulkShape.of m op
  match v with
  | .ambient =>
    shape.emptyGuard ++ [
      ambientScope m (
        shape.loop op .ambient ++ [.line "transaction.Commit();", .line "return results;"])]
  | .supplied => shape.emptyGuard ++ shape.loop op .supplied ++ [.line "return results;"]

/-- Only headers of loops over chunks begin like that. -/
def loopStart : String := "foreach (var chunk in "

/-- The loops over chunks. -/
abbrev loops (ss : List Step) : List (String × List Step) := Step.headed loopStart ss

def loopHeader (input size : String) : String := s!"foreach (var chunk in Chunk({input}, {size}))"

/-- What a loop does with the result of the worker. -/
def collect (s : BulkShape) (worker : String) : String :=
  let call := s!"{worker}(chunk, connection, transaction)"
  if s.collectsRows then s!"results.AddRange({call});" else s!"results += {call};"

theorem loopHeader_starts (input size : String) :
    loopStart.toList <+: (loopHeader input size).toList := by
  have hheader : loopHeader input size =
      "foreach (var chunk in Chunk(" ++ (input ++ (", " ++ (size ++ "))"))) :=
    Text.append_four _ _ _ _ _
  rw [hheader]
  exact Text.starts_append (by decide +kernel) _

theorem loopHeader_inj {input size size' : String}
    (h : loopHeader input size = loopHeader input size') : size = size' :=
  (String.append_right_inj _).mp ((String.append_left_inj _).mp h)

theorem collect_inj {s : BulkShape} {worker worker' : String}
    (h : collect s worker = collect s worker') : worker = worker' := by
  unfold collect at h
  split at h <;>
    exact (String.append_left_inj _).mp
      ((String.append_right_inj _).mp ((String.append_left_inj _).mp h))

theorem loops_loop (s : BulkShape) (op : Bulk) (v : Connection) :
    loops (s.loop op v) = [(loopHeader s.input (chunkConstant op v),
      [.line (collect s (BulkShape.worker op))])] := by
  have hloop : s.loop op v = [
      .line (if s.collectsRows then s!"var results = new {s.returns}();" else "int results = 0;"),
      .braces (loopHeader s.input (chunkConstant op v))
        [.line (collect s (BulkShape.worker op))]] := rfl
  rw [hloop]
  simp only [Step.headed_line_cons, Step.headed_braces_cons_of_starts (loopHeader_starts _ _),
    Step.headed_nil, List.append_nil]

theorem loops_emptyGuard (s : BulkShape) : loops s.emptyGuard = [] := by
  simp (disch := decide +kernel) only [BulkShape.emptyGuard, toString, String.append_assoc,
    Step.headed_braces_append_cons, Step.headed_line_cons, Step.headed_blank_cons, Step.headed_nil,
    List.append_nil]

theorem loops_ambientScope (body : List Step) : loops [ambientScope m body] = loops body := by
  simp (disch := decide +kernel) only [ambientScope, toString, String.append_assoc,
    Step.headed_braces_append_cons, Step.headed_braces_cons, Step.headed_line_cons,
    Step.headed_nil, List.append_nil]

/-- A bulk method has one loop, which takes the size of its chunks from a constant of its own. -/
theorem loops_methodBody (op : Bulk) (v : Connection) :
    loops (methodBody m op v) = [(loopHeader (BulkShape.of m op).input (chunkConstant op v),
      [.line (collect (BulkShape.of m op) (BulkShape.worker op))])] := by
  cases v <;>
    simp [methodBody, loops_emptyGuard, loops_ambientScope, loops_loop]

/-- How the headers of bulk methods and chunk workers begin. -/
def bulkStarts : List String := ["public List<", "public int ", "private List<", "private int "]

def Apart (header : String) : Prop := ∀ p ∈ bulkStarts, Text.differs p header

theorem Apart.append {s : String} (h : Apart s) (t : String) : Apart (s ++ t) := fun p hp =>
  Text.differs_append (h p hp) t

theorem apart_ofList {cs : List Char}
    (h : ∀ p ∈ bulkStarts, (cs.zip p.toList).any fun x => x.1 != x.2) : Apart (String.ofList cs) :=
  fun p hp => Text.differs_ofList (h p hp)

/-- The block is neither a bulk method nor a worker, or a method without a loop over chunks, or one
of those that belong to the bulk operations. -/
def Known (m : Model) (block : String × List Step) : Prop :=
  Apart block.1 ∨ Text.differs "private " block.1 ∧ loops block.2 = [] ∨
    (∃ op v, block = ((BulkShape.of m op).methodHeader op v, methodBody m op v)) ∨
    ∃ op, block = ((BulkShape.of m op).workerHeader (BulkShape.worker op), workerBody m op)

theorem known_emptyGuard (s : BulkShape) : Step.EveryBlock (Known m) s.emptyGuard := by
  simp only [BulkShape.emptyGuard, Step.everyBlock_braces_cons, Step.everyBlock_line_cons,
    Step.everyBlock_blank_cons, Step.everyBlock_nil, and_true, toString]
  refine .inl ?_
  repeat with_reducible apply Apart.append
  exact apart_ofList (by decide)

theorem known_loop (s : BulkShape) (op : Bulk) (v : Connection) :
    Step.EveryBlock (Known m) (s.loop op v) := by
  simp only [BulkShape.loop, Step.everyBlock_braces_cons, Step.everyBlock_line_cons,
    Step.everyBlock_nil, and_true, toString]
  refine .inl ?_
  repeat with_reducible apply Apart.append
  exact apart_ofList (by decide)

theorem known_ambientScope {body : List Step} (h : Step.EveryBlock (Known m) body) :
    Step.EveryBlock (Known m) [ambientScope m body] := by
  simp only [ambientScope, Step.everyBlock_braces_cons, Step.everyBlock_line_cons,
    Step.everyBlock_nil, and_true, h, toString]
  and_intros <;> refine .inl ?_
  all_goals repeat with_reducible apply Apart.append
  all_goals exact apart_ofList (by decide)

theorem apart_commandHeader (query : String) : Apart (commandHeader query) := by
  unfold commandHeader
  repeat with_reducible apply Apart.append
  exact apart_ofList (by decide)

theorem everyBlock_command_cons (query : String) (body ss : List Step) :
    Step.EveryBlock (Known m) (command query body :: ss) ↔
      Step.EveryBlock (Known m) body ∧ Step.EveryBlock (Known m) ss := by
  have hheader : Known m (commandHeader query, body) := .inl (apart_commandHeader query)
  have hcommand : command query body = .braces (commandHeader query) body := rfl
  rw [hcommand, Step.everyBlock_braces_cons, and_iff_right hheader]

theorem loops_command_cons (query : String) (body ss : List Step) :
    loops (command query body :: ss) = loops body ++ loops ss := by
  have hheader : Text.differs loopStart (commandHeader query) := by
    unfold commandHeader
    repeat with_reducible apply Text.differs_append
    exact Text.differs_ofList (by decide)
  exact Step.headed_braces_cons hheader body ss

theorem known_ambientMethods : Step.EveryBlock (Known m) (ambientMethods m) := by
  rw [ambientMethods, Step.everyBlock_append, Step.everyBlock_flatMap, Step.everyBlock_flatMap]
  constructor
  · rintro ⟨signature, call⟩ _
    simp only [Step.everyBlock_braces_cons, Step.everyBlock_blank_cons, Step.everyBlock_nil,
      and_true, toString]
    refine ⟨.inr (.inl ⟨?_, ?_⟩), known_ambientScope (by simp)⟩
    · exact Text.differs_append (Text.differs_ofList (by decide)) _
    · simp [loops_ambientScope]
  · intro op _
    have hbody : Step.EveryBlock (Known m) (methodBody m op .ambient) := by
      have hloop := known_loop (m := m) (BulkShape.of m op) op .ambient
      rw [methodBody, Step.everyBlock_append]
      exact ⟨known_emptyGuard _, known_ambientScope (by simp [hloop])⟩
    have hmethod : Known m
        ((BulkShape.of m op).methodHeader op .ambient, methodBody m op .ambient) :=
      .inr (.inr (.inl ⟨op, .ambient, rfl⟩))
    exact (Step.everyBlock_braces_cons _ _ _).mpr ⟨hmethod, hbody, by simp⟩

theorem loops_insertResult : loops (insertResult m) = [] := by
  unfold insertResult executeCount
  split <;> simp

theorem loops_single (bs : List Binding) : loops (bs.map Binding.single) = [] :=
  Step.headed_map_line _ bs

theorem known_insertResult : Step.EveryBlock (Known m) (insertResult m) := by
  unfold insertResult executeCount
  split <;> simp

theorem known_single (bs : List Binding) : Step.EveryBlock (Known m) (bs.map Binding.single) :=
  Step.everyBlock_map_line _ bs

theorem known_suppliedMethods : Step.EveryBlock (Known m) (suppliedMethods m) := by
  rw [suppliedMethods, Step.everyBlock_append, Step.everyBlock_flatMap]
  constructor
  · simp only [newTable, fillTable, executeCount, allRows, Binding.single,
      Step.everyBlock_braces_cons, Step.everyBlock_line_cons, Step.everyBlock_blank_cons,
      Step.everyBlock_nil, everyBlock_command_cons, Step.everyBlock_append, known_single,
      known_insertResult, and_true, true_and, toString]
    and_intros
    all_goals
      refine .inr (.inl ⟨?_, by simp [loops_command_cons, loops_single, loops_insertResult]⟩)
    all_goals repeat with_reducible apply Text.differs_append
    all_goals exact Text.differs_ofList (by decide)
  · intro op _
    have hbody : Step.EveryBlock (Known m) (methodBody m op .supplied) := by
      have hloop := known_loop (m := m) (BulkShape.of m op) op .supplied
      simp [methodBody, known_emptyGuard, hloop]
    have hmethod : Known m
        ((BulkShape.of m op).methodHeader op .supplied, methodBody m op .supplied) :=
      .inr (.inr (.inl ⟨op, .supplied, rfl⟩))
    exact (Step.everyBlock_braces_cons _ _ _).mpr ⟨hmethod, hbody, by simp⟩

theorem known_chunkWorker (op : Bulk) : Step.EveryBlock (Known m) (chunkWorker m op) := by
  have hworker : Known m
      ((BulkShape.of m op).workerHeader (BulkShape.worker op), workerBody m op) :=
    .inr (.inr (.inr ⟨op, rfl⟩))
  have hrows : Step.EveryBlock (Known m) (chunkBody m op) := by
    have hloop : Apart (rowLoop (BulkShape.of m op).input) := by
      unfold rowLoop
      repeat with_reducible apply Apart.append
      exact apart_ofList (by decide)
    have hbindings : Step.EveryBlock (Known m) ((rowBindings m op).map Binding.indexed) :=
      Step.everyBlock_map_line _ _
    unfold chunkBody fillTable executeCount
    dsimp only
    rw [Step.everyBlock_braces_cons]
    refine ⟨.inl hloop, hbindings, ?_⟩
    split <;> simp
  rw [chunkWorker_eq, Step.everyBlock_braces_cons]
  refine ⟨hworker, ?_, by simp⟩
  cases h : (BulkShape.of m op).collectsRows <;>
    simp [workerBody, h, newTable, allRows, everyBlock_command_cons, hrows]

theorem known_helpers : Step.EveryBlock (Known m) helpers := by
  simp only [helpers, Step.everyBlock_braces_cons, Step.everyBlock_line_cons,
    Step.everyBlock_blank_cons, Step.everyBlock_nil, and_true, true_and, toString]
  and_intros <;> refine .inl ?_
  all_goals exact apart_ofList (by decide)

theorem known_region {name : String} {body : List Step} (h : Step.EveryBlock (Known m) body) :
    Step.EveryBlock (Known m) (region name body) := by
  simp [region, h]

/-- The only blocks that belong to bulk operations are their methods and workers. -/
theorem known_access : Step.EveryBlock (Known m) (access m) := by
  have hworkers : Step.EveryBlock (Known m) (chunkWorkers m ++ helpers) := by
    rw [chunkWorkers, Step.everyBlock_append, Step.everyBlock_flatMap]
    exact ⟨fun op _ => known_chunkWorker op, known_helpers⟩
  simp only [access, constants, List.append_assoc, List.cons_append, Step.everyBlock_lines_cons,
    Step.everyBlock_braces_cons, Step.everyBlock_blank_cons, Step.everyBlock_append,
    Step.everyBlock_nil, known_region, known_ambientMethods, known_suppliedMethods, hworkers,
    and_true, toString]
  and_intros <;> refine .inl ?_
  all_goals exact (apart_ofList (by decide)).append _

/-- What an operation returns, and how its name begins. -/
def resultStart : Bulk → String
  | .getMultiple => "List<"
  | .insertMultiple => "int I"
  | .updateMultiple => "int U"
  | .deleteMultiple => "int D"

theorem resultStart_inj (h : resultStart op = resultStart op') : op = op' := by
  cases op <;> cases op' <;> first | rfl | exact absurd h (by decide)

theorem result_starts (op : Bulk) (rest : String) :
    ∃ t, (BulkShape.of m op).returns ++ " " ++ op.text ++ rest = resultStart op ++ t := by
  have hcut : ∀ s t, "int" ++ " " ++ op.text = s ++ t →
      "int" ++ " " ++ op.text ++ rest = s ++ (t ++ rest) := by
    intro s t h
    rw [h, String.append_assoc]
  cases op with
  | getMultiple =>
    refine ⟨m.names.entity ++ (">" ++ (" " ++ ("GetMultiple" ++ rest))), ?_⟩
    simp only [BulkShape.of, Bulk.text, resultStart, toString, String.append_assoc]
  | insertMultiple => exact ⟨_, hcut _ "nsertMultiple" (by decide)⟩
  | updateMultiple => exact ⟨_, hcut _ "pdateMultiple" (by decide)⟩
  | deleteMultiple => exact ⟨_, hcut _ "eleteMultiple" (by decide)⟩

/-- What stands behind the name of a bulk operation in the header of its method. -/
def opening : Connection → String
  | .ambient => "("
  | .supplied => "WithTransaction("

theorem methodHeader_eq (s : BulkShape) (op : Bulk) (v : Connection) :
    ∃ rest, s.methodHeader op v =
      "public " ++ (s.returns ++ " " ++ op.text ++ (opening v ++ rest)) := by
  have hjoin : ∀ a b c d e f g : String,
      a ++ b ++ c ++ d ++ e ++ f ++ g = a ++ (b ++ c ++ d ++ (e ++ (f ++ g))) := by
    intro a b c d e f g
    simp only [String.append_assoc]
  cases v <;> exact ⟨_, hjoin _ _ _ _ _ _ _⟩

theorem workerHeader_eq (s : BulkShape) (op : Bulk) :
    ∃ rest, s.workerHeader (BulkShape.worker op) =
      "private " ++ (s.returns ++ " " ++ op.text ++ rest) := by
  have hjoin : ∀ a b c d e f g h i j : String, a ++ b ++ c ++ (d ++ e) ++ f ++ g ++ h ++ i ++ j =
      a ++ (b ++ c ++ d ++ (e ++ (f ++ (g ++ (h ++ (i ++ j)))))) := by
    intro a b c d e f g h i j
    simp only [String.append_assoc]
  exact ⟨_, hjoin _ _ _ _ _ _ _ _ _ _⟩

theorem header_starts (visibility : String) (op : Bulk) (rest : String) :
    (visibility ++ resultStart op).toList <+:
      (visibility ++ ((BulkShape.of m op).returns ++ " " ++ op.text ++ rest)).toList := by
  obtain ⟨t, ht⟩ := result_starts (m := m) op rest
  rw [ht, ← String.append_assoc]
  exact Text.starts_self_append _ t

theorem methodHeader_starts (op : Bulk) (v : Connection) :
    ("public " ++ resultStart op).toList <+:
      ((BulkShape.of m op).methodHeader op v).toList := by
  obtain ⟨rest, hrest⟩ := methodHeader_eq (BulkShape.of m op) op v
  rw [hrest]
  exact header_starts "public " op _

theorem workerHeader_starts (op : Bulk) :
    ("private " ++ resultStart op).toList <+:
      ((BulkShape.of m op).workerHeader (BulkShape.worker op)).toList := by
  obtain ⟨rest, hrest⟩ := workerHeader_eq (BulkShape.of m op) op
  rw [hrest]
  exact header_starts "private " op rest

/-- A header tells which operation it belongs to. -/
theorem op_of_starts {visibility header : String}
    (h : (visibility ++ resultStart op).toList <+: header.toList)
    (h' : (visibility ++ resultStart op').toList <+: header.toList) : op = op' := by
  have hlength : (resultStart op).length = (resultStart op').length := by
    cases op <;> cases op' <;> decide
  have hsame := Text.eq_of_starts h h' (by rw [String.length_append, String.length_append, hlength])
  exact resultStart_inj ((String.append_right_inj _).mp hsame)

theorem not_apart_of_starts {visibility header : String}
    (hvisibility : visibility ∈ ["public ", "private "])
    (h : (visibility ++ resultStart op).toList <+: header.toList) : ¬ Apart header := by
  intro hapart
  have hbulk : ∃ p ∈ bulkStarts, p.toList <+: (visibility ++ resultStart op).toList := by
    simp only [List.mem_cons, List.not_mem_nil, or_false] at hvisibility
    simp only [← List.isPrefixOf_iff_prefix]
    rcases hvisibility with rfl | rfl <;> cases op <;> decide +kernel
  obtain ⟨p, hp, hbegins⟩ := hbulk
  exact Text.not_starts_of_differs (hapart p hp) (hbegins.trans h)

theorem methodHeader_ne_workerHeader (s s' : BulkShape) (op op' : Bulk) (v : Connection) :
    s.methodHeader op v ≠ s'.workerHeader (BulkShape.worker op') := by
  intro heq
  obtain ⟨rest, hrest⟩ := methodHeader_eq s op v
  obtain ⟨rest', hrest'⟩ := workerHeader_eq s' op'
  rw [hrest, hrest'] at heq
  have hsecond := congrArg (fun text => text.toList[1]?) heq
  simp at hsecond

theorem opening_append_inj {rest rest' : String} (h : opening v ++ rest = opening v' ++ rest') :
    v = v' := by
  have hapart : ∀ t t', opening .ambient ++ t ≠ opening .supplied ++ t' :=
    Text.append_ne_of_head (by simp [opening]; rfl) (by simp [opening]; rfl) (by decide)
  cases v <;> cases v'
  · rfl
  · exact absurd h (hapart rest rest')
  · exact absurd h.symm (hapart rest' rest)
  · rfl

theorem methodHeader_inj
    (h : (BulkShape.of m op).methodHeader op v = (BulkShape.of m op').methodHeader op' v') :
    op = op' ∧ v = v' := by
  have hstart := methodHeader_starts (m := m) op v
  rw [h] at hstart
  obtain rfl := op_of_starts hstart (methodHeader_starts op' v')
  obtain ⟨rest, hrest⟩ := methodHeader_eq (BulkShape.of m op) op v
  obtain ⟨rest', hrest'⟩ := methodHeader_eq (BulkShape.of m op) op v'
  rw [hrest, hrest', String.append_right_inj, String.append_right_inj] at h
  exact ⟨rfl, opening_append_inj h⟩

theorem workerHeader_inj (h : (BulkShape.of m op).workerHeader (BulkShape.worker op) =
    (BulkShape.of m op').workerHeader (BulkShape.worker op')) : op = op' := by
  have hstart := workerHeader_starts (m := m) op
  rw [h] at hstart
  exact op_of_starts hstart (workerHeader_starts op')

theorem hasMember_of_mem {header : String}
    (h : (header, body) ∈ Step.allBlocks (ambientMethods m) ∨
      (header, body) ∈ Step.allBlocks (suppliedMethods m) ∨
      (header, body) ∈ Step.allBlocks (chunkWorkers m) ∨
      (header, body) ∈ Step.allBlocks helpers) : HasMember m header body := by
  simp only [HasMember, access, region, List.cons_append, Step.allBlocks_lines_cons,
    Step.allBlocks_line_cons, Step.allBlocks_blank_cons, Step.allBlocks_braces_cons,
    Step.allBlocks_append, List.mem_cons, List.mem_append]
  rcases h with h | h | h | h <;> simp only [h, true_or, or_true]

theorem hasMember_method (op : Bulk) (v : Connection) :
    HasMember m ((BulkShape.of m op).methodHeader op v) (methodBody m op v) := by
  have hall : op ∈ Bulk.all := by cases op <;> decide
  have hfirst : ∀ header body, (header, body) ∈ Step.allBlocks [.braces header body, .blank] := by
    intro header body
    rw [Step.allBlocks_braces_cons]
    exact List.mem_cons_self
  cases v with
  | ambient =>
    refine hasMember_of_mem (.inl ?_)
    rw [ambientMethods, Step.allBlocks_append, Step.allBlocks_flatMap, Step.allBlocks_flatMap]
    exact List.mem_append_right _ (List.mem_flatMap.mpr ⟨op, hall, hfirst _ _⟩)
  | supplied =>
    refine hasMember_of_mem (.inr (.inl ?_))
    rw [suppliedMethods, Step.allBlocks_append, Step.allBlocks_flatMap]
    exact List.mem_append_right _ (List.mem_flatMap.mpr ⟨op, hall, hfirst _ _⟩)

theorem hasMember_worker (op : Bulk) :
    HasMember m ((BulkShape.of m op).workerHeader (BulkShape.worker op)) (workerBody m op) := by
  have hall : op ∈ [Bulk.getMultiple, .deleteMultiple, .insertMultiple, .updateMultiple] := by
    cases op <;> decide
  refine hasMember_of_mem (.inr (.inr (.inl ?_)))
  rw [chunkWorkers, Step.allBlocks_flatMap]
  refine List.mem_flatMap.mpr ⟨op, hall, ?_⟩
  rw [chunkWorker_eq, Step.allBlocks_braces_cons]
  exact List.mem_cons_self

/-- Only the method itself has its header and a loop over chunks. -/
theorem eq_methodBody (h : HasMember m ((BulkShape.of m op).methodHeader op v) body)
    (hloops : loops body ≠ []) : body = methodBody m op v := by
  obtain hapart | ⟨-, hnone⟩ | ⟨op', v', heq⟩ | ⟨op', heq⟩ := known_access _ h
  · exact absurd hapart (not_apart_of_starts (by simp) (methodHeader_starts op v))
  · exact absurd hnone hloops
  · obtain ⟨hheader, rfl⟩ := Prod.mk.inj heq
    obtain ⟨rfl, rfl⟩ := methodHeader_inj hheader
    rfl
  · exact absurd (Prod.mk.inj heq).1 (methodHeader_ne_workerHeader _ _ _ _ _)

theorem eq_workerBody
    (h : HasMember m ((BulkShape.of m op).workerHeader (BulkShape.worker op)) body) :
    body = workerBody m op := by
  obtain hapart | ⟨hpublic, -⟩ | ⟨op', v', heq⟩ | ⟨op', heq⟩ := known_access _ h
  · exact absurd hapart (not_apart_of_starts (by simp) (workerHeader_starts op))
  · refine absurd ?_ (Text.not_starts_of_differs hpublic)
    exact (Text.starts_self_append _ _).trans (workerHeader_starts op)
  · exact absurd (Prod.mk.inj heq).1.symm (methodHeader_ne_workerHeader _ _ _ _ _)
  · obtain ⟨hheader, rfl⟩ := Prod.mk.inj heq
    obtain rfl := workerHeader_inj hheader
    rfl

end Scaffold.Backend.Access
