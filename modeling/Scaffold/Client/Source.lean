import Scaffold.Layout

/-! Client source files: what they import, how they are decorated and what they export. -/
namespace Scaffold.Client

structure Import where
  names : List String
  source : String
deriving DecidableEq

def Import.step (i : Import) : Step :=
  let names := ", ".intercalate i.names
  .line s!"import \x7b {names} \x7d from '{i.source}';"

inductive Decorator
  | none
  | injectable
  | component (selector templateUrl : String) (styleUrls : List String)

namespace Decorator

/-- A comma separates the properties. -/
def properties : List String → List Step
  | [] => []
  | [p] => [.line p]
  | p :: ps => .line (p ++ ",") :: properties ps

def steps : Decorator → List Step
  | none => []
  | injectable => Step.within "@Injectable(\x7b" "\x7d)" [.line "providedIn: 'root'"]
  | component selector templateUrl styleUrls =>
    let styles := ", ".intercalate (styleUrls.map fun u => s!"'{u}'")
    Step.within "@Component(\x7b" "\x7d)" (properties (
      [s!"selector: '{selector}'", s!"templateUrl: '{templateUrl}'"] ++
        if styleUrls.isEmpty then [] else [s!"styleUrls: [{styles}]"]))

/-- Relative references to other files of the client. -/
def resources : Decorator → List String
  | component _ templateUrl styleUrls => templateUrl :: styleUrls
  | _ => []

end Decorator

/-- An exported class or interface; `clause` follows its name. -/
structure Export where
  keyword : String
  name : String
  clause : String := ""
  body : List Step

def Export.step (e : Export) : Step := .braces s!"export {e.keyword} {e.name}{e.clause}" e.body

/-- Imports come in groups, each followed by a blank line. -/
structure Source where
  imports : List (List Import) := []
  decorator : Decorator := .none
  exported : List Export := []
  body : List Step := []

def Source.steps (s : Source) : List Step :=
  s.imports.flatMap (fun group => group.map Import.step ++ [.blank]) ++ s.decorator.steps ++
    s.exported.map Export.step ++ s.body

end Scaffold.Client
