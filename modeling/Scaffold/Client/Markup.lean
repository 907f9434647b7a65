import Scaffold.Layout
import Scaffold.Model

/-! The templates of the per-record components. -/
namespace Scaffold.Client.Markup

/-- A required checkbox could never be left unchecked, so it is not required. -/
def input (m : Model) (readonly : Bool) (c : ColumnModel) : List Step :=
  let required := if c.input = .checkbox then "" else " required"
  let locked := if readonly then " readonly" else ""
  Step.within "<div>" "</div>" [
    .line s!"<label for=\"{c.name}\">{c.label}:</label>",
    .line (s!"<input type=\"{c.input.text}\" id=\"{c.name}\" name=\"{c.name}\" " ++
      s!"[(ngModel)]=\"{m.names.stem}.{c.field}\"{required}{locked}>")]

/-- The columns that the insert form asks for. -/
def insertInputs (m : Model) : List ColumnModel := m.columns.filter (!·.identity)

def details (m : Model) : List Step :=
  m.columns.map fun c =>
    .line s!"<p><strong>{c.label}:</strong> \x7b\x7b {m.names.stem}.{c.field} \x7d\x7d</p>"

def form (inputs : List Step) (submit : String) : List Step :=
  Step.within "<form (ngSubmit)=\"onSubmit()\">" "</form>" (
    inputs ++ [.line s!"<button type=\"submit\">{submit}</button>"])

/-- What stands in for a record that is not loaded yet. -/
def loading : List Step :=
  .blank :: Step.within "<ng-template #loading>" "</ng-template>" [.line "<p>Loading...</p>"] ++ [
    .blank,
    .line "<p *ngIf=\"errorMessage\">\x7b\x7b errorMessage \x7d\x7d</p>"]

def loaded (m : Model) (op : Operation) (body : List Step) : List Step :=
  Step.within
    s!"<div class=\"{op.word}-container\" *ngIf=\"{m.names.stem}; else loading\">" "</div>" body ++
  loading

def insert (m : Model) : List Step :=
  Step.within "<div class=\"insert-container\">" "</div>" (
    .line s!"<h2>Add New {m.names.entity}</h2>" ::
    form ((insertInputs m).flatMap (input m false)) "Submit")

def update (m : Model) : List Step :=
  loaded m .update (
    .line s!"<h2>Update {m.names.entity}</h2>" ::
    form (m.columns.flatMap fun c => input m c.isKey c) "Update")

def delete (m : Model) : List Step :=
  loaded m .delete ([
    .line s!"<h2>Delete {m.names.entity}</h2>",
    .line s!"<p>Are you sure you want to delete this {m.names.stem}?</p>"] ++
    details m ++ [.line "<button (click)=\"onDelete()\">Delete</button>"])

def get (m : Model) : List Step :=
  loaded m .get (.line s!"<h2>{m.names.entity} Details</h2>" :: details m)

def ofOperation (m : Model) : Operation → List Step
  | .insert => insert m
  | .update => update m
  | .delete => delete m
  | .get => get m

end Scaffold.Client.Markup
