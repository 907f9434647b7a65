/-! Source text as a tree of steps, and its printing with indentation and braces. -/
namespace Scaffold

/-- Where an opening brace stands: on its own line, or at the end of the header. -/
inductive Style
  | ownLine
  | endOfHeader
deriving DecidableEq

/-- One level of indentation. -/
def Style.unit : Style → String
  | ownLine => "    "
  | endOfHeader => "  "

inductive Step
  | line (text : String)
  | lines (texts : List String)
  | blank
  | indent
  | dedent
  | summary (text : String)
  | block (header close : String) (body : List Step)

namespace Step

/-- Lines between two brackets that are written as they are. -/
def within (opening closing : String) (body : List Step) : List Step :=
  .line opening :: .indent :: body ++ [.dedent, .line closing]

def braces (header : String) (body : List Step) : Step := .block header "\x7d" body

end Step

structure Writer where
  style : Style
  level : Nat := 0
  text : String := ""

namespace Writer

/-- An empty line carries no indentation. -/
def line (w : Writer) (s : String) : Writer :=
  if s.isEmpty then { w with text := w.text ++ "\n" }
  else { w with text := w.text ++ String.join (List.replicate w.level w.style.unit) ++ s ++ "\n" }

def openBlock (w : Writer) (header : String) : Writer :=
  match w.style with
  | .ownLine => (w.line header).line "\x7b"
  | .endOfHeader => w.line (header ++ " \x7b")

def indent (w : Writer) : Writer := { w with level := w.level + 1 }

/-- At level zero nothing changes. -/
def dedent (w : Writer) : Writer := { w with level := w.level - 1 }

mutual

def step (w : Writer) : Step → Writer
  | .line s => w.line s
  | .lines ss => ss.foldl line w
  | .blank => w.line ""
  | .indent => w.indent
  | .dedent => w.dedent
  | .summary s => ["/// <summary>", "/// " ++ s, "/// </summary>"].foldl line w
  | .block header close body => (((w.openBlock header).indent.steps body).dedent).line close

def steps (w : Writer) : List Step → Writer
  | [] => w
  | s :: ss => (w.step s).steps ss

end

end Writer

def Step.print (style : Style) (steps : List Step) : String :=
  (({ style : Writer }).steps steps).text

end Scaffold
