/-
Weight tables: what an answer of a reputation list weighs.

A row gives a weight to the answers in a network; the longest networks come first.  A listing with several
answers, or an answer in several networks, gets the greatest of the weights.

* `WeightTable.make` builds a table from rows and the weight for all of 127.0.0.0/8;
* `WeightTable.heaviest?` is the weight of a list of answers.
-/
import MailPolicy.Check.Error
import MailPolicy.Check.Settings
import MailPolicy.Network.Prefix

namespace MailPolicy

/-- A row of a weight table. -/
structure WeightEntry (α : Type) where
  network : Prefix 32
  weight : α

/-- Rows by falling length of the network. -/
structure WeightTable (α : Type) where
  entries : List (WeightEntry α)

namespace WeightTable

variable {α : Type}

/-- The table of the given rows; rows of equal length keep their order. -/
def ofEntries (rows : List (WeightEntry α)) : WeightTable α :=
  ⟨rows.mergeSort fun a b => b.network.length ≤ a.network.length⟩

/-- The greater of two weights, the first unless the second is greater. -/
def heavier [LT α] [DecidableLT α] (a b : α) : α := if a < b then b else a

/-- The weights of every row that some answer falls into. -/
def matching (t : WeightTable α) (answers : List Ipv4) : List α :=
  answers.flatMap fun a => (t.entries.filter (·.network.contains a)).map (·.weight)

/-- The greatest weight of any row that some answer falls into. -/
def heaviest? [LT α] [DecidableLT α] (t : WeightTable α) (answers : List Ipv4) : Option α :=
  match t.matching answers with
  | [] => none
  | w :: ws => some (ws.foldl heavier w)

/-- The range of what the table can give. -/
def bounds [Zero α] [LT α] [DecidableLT α] (t : WeightTable α) : Bounds α :=
  .ofWeights (t.entries.map (·.weight))

/-- Reads a network, or a single address as the network of that address alone. -/
def network? (text : Text) : Option (Prefix 32) :=
  let text := if text.contains '/' then text else text ++ "/32".toList
  (Prefix.parseIpv4? text).map Prefix.truncate

/-- The network of all answers that a list can give. -/
def loopback : Prefix 32 := ⟨Ipv4.ofOctets [127, 0, 0, 0], 8, by decide⟩

/-- The row for a configured one. -/
def entry (row : WeightRow) : Except Unusable (WeightEntry Float) :=
  let text := Text.trim row.network
  match network? text with
  | none => .error (.badNetwork text)
  | some network => if row.weight.isFinite then .ok ⟨network, row.weight⟩ else .error .weightNotFinite

/-- The row for the weight of all answers. -/
def bareEntry (weight : Float) : Except Unusable (WeightEntry Float) :=
  if weight.isFinite then .ok ⟨loopback, weight⟩ else .error .weightNotFinite

/-- The table for configured rows and a weight for all answers; it must have a row. -/
def make (rows : List WeightRow) (weight : Option Float) : Except Unusable (WeightTable Float) := do
  let listed ← rows.mapM entry
  let bare ← weight.toList.mapM bareEntry
  match listed ++ bare with
  | [] => throw .noWeights
  | entries => return ofEntries entries

end WeightTable
end MailPolicy
