import Scaffold.Client.Component
import Scaffold.Client.Interface
import Scaffold.Client.MatTable
import Scaffold.Client.Service
import Scaffold.Proofs.Client.Sources

/-! The client sources of a table with plain names are readable. -/
namespace Scaffold

/-- The names that client sources take from the table stand unmarked in their texts. -/
structure Names.Plain (n : Names) : Prop where
  entity : Client.Named n.entity
  stem : Client.Unmarked n.stem
  clientService : Client.Named n.clientService
  serviceVariable : Client.Unmarked n.serviceVariable
  route : Client.Unmarked n.route
  matTableClass : Client.Named n.matTableClass

namespace Client

open Step (Bracketed)

variable {m : Model} {n : Names}

instance (i : Import) : Decidable i.Readable :=
  decidable_of_iff ((∀ n ∈ i.names, Named n) ∧ Unmarked i.source)
    ⟨fun ⟨hnames, hsource⟩ => ⟨hnames, hsource⟩, fun ⟨hnames, hsource⟩ => ⟨hnames, hsource⟩⟩

theorem readable_serviceImport (h : n.Plain) : (serviceImport n).Readable where
  names := by simpa [serviceImport] using h.clientService
  source := by
    simp [serviceImport, toString, h.stem]
    decide

theorem readable_entityImport (h : n.Plain) : (entityImport n).Readable where
  names := by simpa [entityImport] using h.entity
  source := by
    simp [entityImport, toString, h.stem]
    decide

theorem readable_interface (h : m.names.Plain) : (interface m).Readable where
  imports := by simp [interface]
  decorator := trivial
  exported := by
    simp only [interface, List.mem_singleton, forall_eq]
    exact ⟨.inr rfl, h.entity.2, .inl rfl, Bracketed.map_line _ _⟩
  body := by simp [interface]
  nonempty := .inl (by simp [interface])

theorem Service.Request.bracketed (r : Request) : Bracketed [.blank, r.step] := by
  have hcall : ∀ opening : String,
      Bracketed (Step.within opening ");" [.line "catchError(this.handleError)"]) :=
    fun opening => .within _ _ (.line _ .nil)
  rw [step]
  refine .blank (.braces _ (.append ?_ (hcall _)) .nil)
  split
  · exact .line _ .nil
  · exact .nil

theorem readable_service (h : m.names.Plain) : (service m).Readable where
  imports := by
    simp only [service, List.flatten_cons, List.flatten_nil, List.append_nil, List.forall_mem_cons]
    exact ⟨by decide, by decide, by decide, by decide, readable_entityImport h, by simp⟩
  decorator := trivial
  exported := by
    simp only [service, List.mem_singleton, forall_eq]
    refine ⟨.inl rfl, h.clientService.2, .inl rfl, ?_⟩
    exact (Bracketed.append (.line _ (.blank (.line _ .nil)))
      (.flatMap fun r _ => r.bracketed)).append
        (.blank (.braces _ (.line _ (.line _ .nil)) .nil))
  body := by simp [service]
  nonempty := .inl (by simp [service])

theorem readable_serviceTest (h : m.names.Plain) : (serviceTest m).Readable where
  imports := by
    have hsource : Unmarked ("./" ++ m.names.stem ++ ".service") := by
      simp only [unmarked_append, h.stem]
      decide
    simp only [serviceTest, List.flatten_cons, List.flatten_nil, List.append_nil,
      List.cons_append, List.nil_append, List.forall_mem_cons]
    exact ⟨by decide, by decide, ⟨by simpa using h.clientService, hsource⟩, by simp⟩
  decorator := trivial
  exported := by simp [serviceTest]
  body := by
    have hname := h.clientService.2.unbroken
    simp only [serviceTest, List.mem_singleton, forall_eq]
    refine ⟨?_, Import.ofLine?_of_head (by decide), ?_⟩
    · simp only [toString, Step.unbroken_append, hname]
      decide
    · exact .line _ (.blank (.block _ _ ((Bracketed.within _ _ (.line _ .nil)).append (.line _ .nil))
        (.blank (.block _ _ (.line _ .nil) .nil))))
  nonempty := .inr (by simp [serviceTest])

theorem readable_matTable (h : m.names.Plain) : (matTable m).Readable where
  imports := by
    simp only [matTable, List.flatten_cons, List.flatten_nil, List.append_nil, List.forall_mem_cons]
    exact ⟨by decide, by decide, by decide, readable_serviceImport h, readable_entityImport h,
      by simp⟩
  decorator := by
    refine ⟨?_, ?_, by simp⟩
    · simp only [Names.matTableSelector, unmarked_append, h.stem]
      decide
    · simp only [toString, unmarked_append, h.stem]
      decide
  exported := by
    simp only [matTable, List.mem_singleton, forall_eq]
    refine ⟨.inl rfl, h.matTableClass.2, .inr ⟨"implements AfterViewInit", rfl, by decide⟩, ?_⟩
    exact .line _ (.line _ (.blank (.line _ (.blank (.line _ (.blank (.braces _
      (.line _ (.line _ .nil)) (.blank (.braces _ (.line _ .nil) .nil)))))))))
  body := by simp [matTable]
  nonempty := .inl (by simp [matTable])

namespace Component

theorem bracketed_onInit {rest : List Step} (h : Bracketed rest) : Bracketed (onInit m :: rest) := by
  rw [onInit]
  refine .braces _ (.append (.line _ (.braces _ (.line _ (.line _ .nil)) (.line _ .nil))) ?_) h
  exact .within _ _ (.line _ (.braces _ (.line _ (.line _ .nil)) .nil))

theorem bracketed_recordBody (m : Model) (router : String) : Bracketed (recordBody m router) :=
  .line _ (.line _ (.line _ (.blank (.line _ (.blank (bracketed_onInit .nil))))))

theorem bracketed_body (m : Model) (op : Operation) : Bracketed (body m op) := by
  cases op with
  | insert =>
    refine .line _ (.blank (.line _ (.blank (.braces _ ?_ (.blank (.braces _ (.line _ .nil) .nil))))))
    exact .within _ _ (.block _ _ (.line _ (.line _ .nil)) (.line _ .nil))
  | update =>
    refine (bracketed_recordBody m _).append (.blank (.braces _ (.braces _ (.line _ .nil) ?_) .nil))
    exact .within _ _ (.line _ (.line _ .nil))
  | delete =>
    refine (bracketed_recordBody m _).append (.blank (.braces _ ?_ .nil))
    exact .within _ _ (.block _ _ (.line _ (.line _ .nil)) (.line _ .nil))
  | get => exact bracketed_recordBody m _

theorem unmarked_componentStem (h : n.Plain) (op : Operation) : Unmarked (n.componentStem op) := by
  have hword : Unmarked ("-" ++ op.word) := by cases op <;> decide
  rw [Names.componentStem, String.append_assoc]
  exact unmarked_append.mpr ⟨h.stem, hword⟩

theorem named_componentClass (h : n.Plain) (op : Operation) : Named (n.componentClass op) := by
  have hword : Unmarked (op.capitalized ++ "Component") := by cases op <;> decide
  rw [Names.componentClass, String.append_assoc]
  exact h.entity.append hword

theorem readable_imports (h : m.names.Plain) (op : Operation) :
    ∀ i ∈ imports m op, i.Readable := by
  have hshared : ∀ i ∈ [serviceImport m.names, entityImport m.names], i.Readable :=
    List.forall_mem_cons.mpr ⟨readable_serviceImport h,
      List.forall_mem_cons.mpr ⟨readable_entityImport h, by simp⟩⟩
  cases op with
  | insert => exact List.forall_mem_cons.mpr ⟨by decide, hshared⟩
  | update | delete | get =>
    exact List.forall_mem_cons.mpr ⟨by decide, List.forall_mem_cons.mpr ⟨by decide, hshared⟩⟩

theorem readable_source (h : m.names.Plain) (op : Operation) : (source m op).Readable where
  imports := by simpa [source] using readable_imports h op
  decorator := by
    have hstem := unmarked_componentStem h op
    have hselector : Unmarked ("app-" ++ m.names.componentStem op) :=
      unmarked_append.mpr ⟨by decide, hstem⟩
    refine ⟨hselector, ?_, ?_⟩
    · simp only [toString, unmarked_append, hstem]
      decide
    · simp only [List.mem_singleton, forall_eq, toString, unmarked_append, hstem]
      decide
  exported := by
    simp only [source, List.mem_singleton, forall_eq]
    refine ⟨.inl rfl, (named_componentClass h op).2, ?_, bracketed_body m op⟩
    dsimp only
    split
    · exact .inl rfl
    · exact .inr ⟨"implements OnInit", rfl, by decide⟩
  body := by simp [source]
  nonempty := .inl (by simp [source])

theorem readable_test (h : m.names.Plain) (op : Operation) : (test m op).Readable where
  imports := by
    have hsource : Unmarked ("./" ++ m.names.componentStem op ++ ".component") := by
      simp only [unmarked_append, unmarked_componentStem h op]
      decide
    have hmodules : ∀ i ∈ testModules op, i.Readable := by cases op <;> decide
    have hown : Import.Readable ⟨[m.names.componentClass op],
        "./" ++ m.names.componentStem op ++ ".component"⟩ :=
      ⟨by simpa using named_componentClass h op, hsource⟩
    simp only [test, List.flatten_cons, List.flatten_nil, List.append_nil, List.forall_mem_append,
      List.forall_mem_cons]
    exact ⟨⟨⟨by decide, by decide, by simp⟩, hmodules⟩, hown, by simp⟩
  decorator := trivial
  exported := by simp [test]
  body := by
    have hname := (named_componentClass h op).2.unbroken
    simp only [test, List.mem_singleton, forall_eq]
    refine ⟨?_, Import.ofLine?_of_head (by decide), ?_⟩
    · simp only [toString, Step.unbroken_append, hname]
      decide
    · refine .line _ (.line _ (.blank (.block _ _ (.append ?_ ?_)
        (.blank (.block _ _ (.line _ .nil) .nil)))))
      · exact .within _ _ (.line _ (.line _ .nil))
      · exact .line _ (.blank (.line _ (.line _ (.line _ .nil))))
  nonempty := .inr (by simp [test])

end Component

open Step (AllLines Unbroken)

theorem unbroken_clientType (c : ClientType) : Unbroken c.text := by cases c <;> decide

theorem unbroken_interface (h : m.names.Plain) (hfields : ∀ c ∈ m.columns, Unbroken c.field) :
    AllLines Unbroken (interface m).steps := by
  refine Source.unbroken_steps (readable_interface h) ?_ (by simp [interface])
  simp only [interface, List.mem_singleton, forall_eq, Step.allLines_map_line]
  intro c hc
  simp [toString, hfields c hc, unbroken_clientType]
  and_intros <;> exact Step.unbroken_ofList (by decide)

/-- The texts that a request is made of. -/
def Service.Request.texts (r : Request) : List String :=
  [r.name, r.params, r.returns, r.verb, r.path] ++ r.body.toList

theorem Service.unbroken_step {r : Request} (h : ∀ text ∈ r.texts, Unbroken text) :
    AllLines Unbroken [r.step] := by
  obtain ⟨name, params, returns, verb, path, body, indexed⟩ := r
  simp only [Request.texts, List.cons_append, List.nil_append, List.forall_mem_cons] at h
  obtain ⟨hname, hparams, hreturns, hverb, hpath, hbody⟩ := h
  cases body with
  | none =>
    cases indexed <;>
      (simp [Request.step, toString, hname, hparams, hreturns, hverb, hpath]
       and_intros <;> exact Step.unbroken_ofList (by decide))
  | some body =>
    have hbody : Unbroken body := by simpa using hbody
    cases indexed <;>
      (simp [Request.step, toString, hname, hparams, hreturns, hverb, hpath, hbody]
       and_intros <;> exact Step.unbroken_ofList (by decide))

theorem Service.unbroken_requests (h : m.names.Plain) :
    ∀ r ∈ requests m, ∀ text ∈ r.texts, Unbroken text := by
  have hentity := h.entity.2.unbroken
  have hstem := h.stem.unbroken
  have hkey := unbroken_clientType m.keyClient
  simp [requests, Request.texts, toString, hentity, hstem, hkey]
  and_intros <;> exact Step.unbroken_ofList (by decide)

theorem unbroken_service (h : m.names.Plain) : AllLines Unbroken (service m).steps := by
  have hroute := h.route.unbroken
  have hrequests : AllLines Unbroken ((Service.requests m).flatMap fun r => [.blank, r.step]) := by
    rw [Step.allLines_flatMap]
    intro r hr
    rw [Step.allLines_blank_cons]
    exact Service.unbroken_step (Service.unbroken_requests h r hr)
  refine Source.unbroken_steps (readable_service h) ?_ (by simp [service])
  simp only [service, List.mem_singleton, forall_eq, Step.allLines_append, hrequests]
  simp [toString, hroute]
  and_intros <;> exact Step.unbroken_ofList (by decide)

theorem unbroken_serviceTest (h : m.names.Plain) : AllLines Unbroken (serviceTest m).steps := by
  have hservice := h.clientService.2.unbroken
  refine Source.unbroken_steps (readable_serviceTest h) (by simp [serviceTest]) ?_
  simp [serviceTest, toString, hservice]
  and_intros <;> exact Step.unbroken_ofList (by decide)

theorem unbroken_matTable (h : m.names.Plain) (hfields : ∀ c ∈ m.columns, Unbroken c.field) :
    AllLines Unbroken (matTable m).steps := by
  have hentity := h.entity.2.unbroken
  have hservice := h.clientService.2.unbroken
  have hvariable := h.serviceVariable.unbroken
  have hlist : Unbroken (", ".intercalate (m.columns.map fun c => "'" ++ c.field ++ "'")) := by
    refine Text.not_mem_intercalate (by decide) fun text htext => ?_
    obtain ⟨c, hc, rfl⟩ := List.mem_map.mp htext
    change Unbroken ("'" ++ c.field ++ "'")
    simp [hfields c hc]
    exact Step.unbroken_ofList (by decide)
  refine Source.unbroken_steps (readable_matTable h) ?_ (by simp [matTable])
  simp only [matTable, List.mem_singleton, forall_eq]
  simp [toString, hentity, hservice, hvariable, hlist]
  and_intros <;> exact Step.unbroken_ofList (by decide)

namespace Component

theorem unbroken_body (h : m.names.Plain) (op : Operation) :
    AllLines Unbroken (body m op) := by
  have hentity := h.entity.2.unbroken
  have hstem := h.stem.unbroken
  have hservice := h.clientService.2.unbroken
  have hvariable := h.serviceVariable.unbroken
  have hkey := unbroken_clientType m.keyClient
  have hroute : Unbroken (routeId m) := by
    unfold routeId
    split <;> decide
  have hrecord : ∀ router, Unbroken router → AllLines Unbroken (recordBody m router) := by
    intro router hrouter
    simp [recordBody, onInit, toString, hentity, hstem, hservice, hvariable, hkey, hroute, hrouter]
    and_intros <;> exact Step.unbroken_ofList (by decide)
  cases op with
  | insert =>
    simp [body, insertBody, toString, hentity, hstem, hservice, hvariable]
    and_intros <;> exact Step.unbroken_ofList (by decide)
  | update =>
    have hplain := hrecord "" (by decide)
    simp [body, updateBody, toString, hentity, hstem, hvariable, hplain]
    and_intros <;> exact Step.unbroken_ofList (by decide)
  | delete =>
    have hrouted := hrecord "private router: Router, " (by decide)
    simp [body, deleteBody, toString, hentity, hstem, hvariable, hrouted]
    and_intros <;> exact Step.unbroken_ofList (by decide)
  | get => exact hrecord "" (by decide)

theorem unbroken_source (h : m.names.Plain) (op : Operation) :
    AllLines Unbroken (source m op).steps := by
  refine Source.unbroken_steps (readable_source h op) ?_ (by simp [source])
  simpa [source] using unbroken_body h op

theorem unbroken_test (h : m.names.Plain) (op : Operation) :
    AllLines Unbroken (test m op).steps := by
  have hclass := (named_componentClass h op).2.unbroken
  have himported : Unbroken (", ".intercalate
      ("HttpClientTestingModule" :: (testModules op).flatMap (·.names))) := by
    cases op <;> decide +kernel
  refine Source.unbroken_steps (readable_test h op) (by simp [test]) ?_
  simp [test, toString, hclass, himported]
  and_intros <;> exact Step.unbroken_ofList (by decide)

end Component

end Client

end Scaffold
