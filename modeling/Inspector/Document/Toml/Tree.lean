import Inspector.Document.Value

/-!
# The tree of a TOML document

A document grows a tree of tables line by line. Where a table comes from decides
what may still be added to it: a table that only occurs on the way to another
one may get its own heading later, one that was made by dotted keys may grow by
dotted keys only, and a value in braces or brackets is complete. No key is given
twice.
-/

namespace Inspector.Document.Toml

/-- Where a table comes from. -/
inductive Origin where
  /-- It has its own heading, or is the document itself. -/
  | heading
  /-- A heading below it mentions it. -/
  | mentioned
  /-- Dotted keys made it. -/
  | dotted
deriving DecidableEq

/-- A part of the tree. -/
inductive Node where
  | value (v : Value)
  | table (origin : Origin) (entries : List (String × Node))
  /-- The elements of a list of tables with headings of their own. -/
  | tables (elements : List (List (String × Node)))

/-- The keys of a table and what they stand for. -/
abbrev Entries := List (String × Node)

mutual

/-- The value that a part of the tree comes to. -/
def Node.toValue : Node → Value
  | .value v => v
  | .table _ entries => .table (entriesToValues entries)
  | .tables elements => .list (elementsToValues elements)

/-- The values of the entries of a table. -/
def entriesToValues : List (String × Node) → List (String × Value)
  | [] => []
  | (key, node) :: rest => (key, node.toValue) :: entriesToValues rest

/-- The values of the elements of a list of tables. -/
def elementsToValues : List (List (String × Node)) → List Value
  | [] => []
  | entries :: rest => .table (entriesToValues entries) :: elementsToValues rest

end

namespace Entries

/-- The entries with a key standing for something new. -/
def put (entries : Entries) (key : String) (node : Node) : Entries :=
  if (entries.lookup key).isSome then
    entries.map fun entry => if entry.1 == key then (key, node) else entry
  else entries ++ [(key, node)]

/-- Changes the entries of the table at a path. Tables that are not there yet are
made; a list of tables stands for its last element. Keys of a dotted path do not
lead through a table with a heading. -/
def changeAt (dotted : Bool) (change : Origin → Entries → Option Entries) :
    List String → Origin → Entries → Option Entries
  | [], origin, entries => change origin entries
  | key :: path, _, entries =>
    match entries.lookup key with
    | none =>
      let origin := if dotted then .dotted else .mentioned
      (changeAt dotted change path origin []).map fun inner =>
        entries.put key (.table origin inner)
    | some (.table origin inner) =>
      if dotted && origin == .heading then none
      else
        (changeAt dotted change path origin inner).map fun inner =>
          entries.put key (.table origin inner)
    | some (.tables elements) =>
      (elements.getLast?.bind (changeAt dotted change path .heading)).map fun inner =>
        entries.put key (.tables (elements.dropLast ++ [inner]))
    | some (.value _) => none

/-- Gives a key of the table at a dotted path a value. A table takes keys either
from dotted paths or from its own lines. -/
def assign (path : List String) (key : String) (v : Value) (origin : Origin) (entries : Entries) :
    Option Entries :=
  changeAt true
    (fun found inner =>
      if (found == .dotted) == !path.isEmpty && (inner.lookup key).isNone then
        some (inner.put key (.value v))
      else none)
    path origin entries

/-- Gives a table its heading. -/
def openTable (path : List String) (key : String) (entries : Entries) : Option Entries :=
  changeAt false
    (fun _ inner =>
      match inner.lookup key with
      | none => some (inner.put key (.table .heading []))
      | some (.table .mentioned below) => some (inner.put key (.table .heading below))
      | some _ => none)
    path .heading entries

/-- Adds an element to a list of tables. -/
def openElement (path : List String) (key : String) (entries : Entries) : Option Entries :=
  changeAt false
    (fun _ inner =>
      match inner.lookup key with
      | none => some (inner.put key (.tables [[]]))
      | some (.tables elements) => some (inner.put key (.tables (elements ++ [[]])))
      | some _ => none)
    path .heading entries

/-- Gives a key of the table under a heading a value. -/
def assignUnder (heading path : List String) (key : String) (v : Value) (entries : Entries) :
    Option Entries :=
  changeAt false (assign path key v) heading .heading entries

end Entries

end Inspector.Document.Toml
