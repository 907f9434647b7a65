import Scaffold.Batch.Plan
import Scaffold.Text.Case

/-! Chunk sizes of the bulk operations. -/
namespace Scaffold

inductive Bulk
  | getMultiple
  | insertMultiple
  | updateMultiple
  | deleteMultiple
deriving DecidableEq

namespace Bulk

def all : List Bulk := [getMultiple, insertMultiple, updateMultiple, deleteMultiple]

def text : Bulk → String
  | getMultiple => "GetMultiple"
  | insertMultiple => "InsertMultiple"
  | updateMultiple => "UpdateMultiple"
  | deleteMultiple => "DeleteMultiple"

end Bulk

/-- Who owns the connection of a bulk call: the call itself, or its caller. -/
inductive Connection
  | ambient
  | supplied
deriving DecidableEq

namespace Connection

def all : List Connection := [ambient, supplied]

def text : Connection → String
  | ambient => "Ambient"
  | supplied => "Supplied"

end Connection

/-- What the budget is divided by: a fixed guess, or the parameters a row binds. -/
inductive BudgetPolicy
  | compatible
  | exact
deriving DecidableEq

namespace BudgetPolicy

def word : BudgetPolicy → String
  | compatible => "compatible"
  | exact => "exact"

def text : BudgetPolicy → String
  | compatible => "Compatible"
  | exact => "Exact"

def ofWord? (s : String) : Option BudgetPolicy := [compatible, exact].find? (·.word == s)

/-- Reads a word in any ASCII case; the error is the message. -/
def read (s : String) : Except String BudgetPolicy :=
  let word := Text.asciiLower s
  match ofWord? word with
  | some p => .ok p
  | none => .error s!"unknown budget policy `{word}` (expected `compatible` or `exact`)"

end BudgetPolicy

/-- Written and declared columns of a table. -/
structure ColumnCounts where
  nonKey : Nat
  total : Nat
  nonKey_le_total : nonKey ≤ total

def ColumnCounts.of (nonKey total : Nat) : ColumnCounts :=
  ⟨nonKey, max total nonKey, Nat.le_max_right total nonKey⟩

structure ParamBudget where
  budget : Nat := 1000
  divisor : Nat := 4
  policy : BudgetPolicy := .compatible
deriving DecidableEq

namespace ParamBudget

/-- Parameters that one item of the operation binds. -/
def boundParams (op : Bulk) (n : ColumnCounts) : Nat :=
  match op with
  | .getMultiple | .deleteMultiple => 1
  | .insertMultiple => n.nonKey
  | .updateMultiple => n.nonKey + 1

/-- Parameters that one item is taken to bind when chunks are sized. -/
def paramsPerItem (b : ParamBudget) (op : Bulk) (v : Connection) (n : ColumnCounts) : Nat :=
  match op, b.policy, v with
  | .getMultiple, _, _ | .deleteMultiple, _, _ => 1
  | _, .exact, _ => boundParams op n
  | _, .compatible, .ambient => n.total
  | _, .compatible, .supplied => b.divisor

def chunkSize (b : ParamBudget) (op : Bulk) (v : Connection) (n : ColumnCounts) : Nat :=
  Batch.maxLen (b.paramsPerItem op v n) b.budget

/-- What a full chunk binds, if that is more than the budget. -/
def overflow? (b : ParamBudget) (op : Bulk) (v : Connection) (n : ColumnCounts) : Option Nat :=
  let bound := b.chunkSize op v n * boundParams op n
  if bound > b.budget then some bound else none

def plan (b : ParamBudget) (op : Bulk) (v : Connection) (n : ColumnCounts) (items : Nat) :
    List Batch.Chunk :=
  Batch.plan items (b.paramsPerItem op v n) b.budget

end ParamBudget

end Scaffold
