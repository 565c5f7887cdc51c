/-
Values of a TOML document, and the rules by which its lines build up tables.

A table is a list of entries, each key once.  How a table came about decides whether later lines may add to
it: a table with a header of its own gets no second one and nothing by dotted keys, one that stands only
above others may still get its header, one made by dotted keys grows by dotted keys alone, and a table in
braces is closed.  The same holds within braces, where there are no headers.

* `Entries.assign` gives a value to a dotted key;
* `Entries.openTable`, `Entries.openElement` are the two kinds of headers;
* `Draft.add` adds one line to a document.
-/
import MailPolicy.Text.Basic

namespace MailPolicy.Toml

/-- How a table came about. -/
inductive Origin where
  /-- In braces. -/
  | inline
  /-- By a header of its own. -/
  | header
  /-- By the header of a table below it. -/
  | above
  /-- By a dotted key. -/
  | dotted
deriving DecidableEq, Repr

/-- A value. -/
inductive Value where
  | string (text : Text)
  | integer (n : Int)
  | float (x : Float)
  | boolean (b : Bool)
  | dateTime (written : Text)
  /-- An array, in brackets or with a header for each element. -/
  | array (byHeaders : Bool) (items : List Value)
  | table (origin : Origin) (entries : List (Text × Value))

/-- The entries of a table. -/
abbrev Entries := List (Text × Value)

/-- A dotted key: its last part and those before it. -/
structure Key where
  parents : List Text
  last : Text
deriving DecidableEq, Repr

/-- The parts of a dotted key. -/
def Key.path (k : Key) : List Text := k.parents ++ [k.last]

/-- Whether a table may be passed through on the way to one that is made in the given way. -/
def Origin.lets (table made : Origin) : Bool :=
  match table with
  | inline => false
  | header => made != dotted
  | above => true
  | dotted => true

namespace Entries

/-- The entries with the value of a key that is there replaced. -/
def replace (key : Text) (v : Value) (t : Entries) : Entries :=
  t.map fun (k, old) => if k = key then (k, v) else (k, old)

/-- Changes the table at the end of a path.  Tables that are missing on the way are `made` in the given way;
an array with a header for each element leads to its last element. -/
def alter (made : Origin) (change : Origin → Entries → Option Entries) :
    List Text → Origin → Entries → Option Entries
  | [], here, t => change here t
  | key :: path, _, t =>
    match t.lookup key with
    | none => (alter made change path made []).map fun inner => t ++ [(key, .table made inner)]
    | some (.table origin inner) =>
      if origin.lets made then
        (alter made change path origin inner).map fun inner => replace key (.table origin inner) t
      else none
    | some (.array true items) =>
      match items.getLast? with
      | some (.table origin inner) =>
        (alter made change path origin inner).map fun inner =>
          replace key (.array true (items.dropLast ++ [.table origin inner])) t
      | _ => none
    | some _ => none

/-- Gives a value to a key that has none.  A table made by dotted keys gets it by a dotted key, and no other
table does. -/
def putNew (key : Key) (v : Value) (here : Origin) (t : Entries) : Option Entries :=
  if (here == .dotted) == key.parents.isEmpty then none
  else if (t.lookup key.last).isSome then none
  else some (t ++ [(key.last, v)])

/-- Gives a value to a dotted key in a table that is not itself made by dotted keys. -/
def assign (key : Key) (v : Value) (here : Origin) (t : Entries) : Option Entries :=
  alter .dotted (putNew key v) key.parents here t

/-- The header of a table: makes it, or gives it to one that stood only above others. -/
def openTable (key : Key) (root : Entries) : Option Entries :=
  alter .above (fun _ t =>
    match t.lookup key.last with
    | none => some (t ++ [(key.last, .table .header [])])
    | some (.table .above inner) => some (replace key.last (.table .header inner) t)
    | some _ => none) key.parents .header root

/-- The header of an element: adds an empty table to an array of that kind. -/
def openElement (key : Key) (root : Entries) : Option Entries :=
  alter .above (fun _ t =>
    match t.lookup key.last with
    | none => some (t ++ [(key.last, .array true [.table .header []])])
    | some (.array true items) => some (replace key.last (.array true (items ++ [.table .header []])) t)
    | some _ => none) key.parents .header root

end Entries

/-- A line of a document. -/
inductive Statement where
  | assign (key : Key) (v : Value)
  | openTable (key : Key)
  | openElement (key : Key)

/-- A document as far as it has been read. -/
structure Draft where
  root : Entries := []
  /-- The path to the table of the last header. -/
  place : List Text := []

namespace Draft

/-- The document with one more line, unless that line contradicts an earlier one. -/
def add (d : Draft) : Statement → Option Draft
  | .assign key v =>
    (Entries.alter .above (Entries.assign key v) d.place .header d.root).map fun root => { d with root := root }
  | .openTable key => (Entries.openTable key d.root).map fun root => ⟨root, key.path⟩
  | .openElement key => (Entries.openElement key d.root).map fun root => ⟨root, key.path⟩

/-- The document that some lines make. -/
def ofStatements (lines : List Statement) : Option Draft := lines.foldlM add {}

end Draft

/-- The table that assignments within braces make. -/
def Value.inlineTable? (pairs : List (Key × Value)) : Option Value :=
  (pairs.foldlM (fun t (k, v) => Entries.assign k v .inline t) []).map (.table .inline)

end MailPolicy.Toml
