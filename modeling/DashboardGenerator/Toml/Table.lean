import DashboardGenerator.Toml.Scalar

/-!
# TOML tables

A document is a tree of tables, arrays and scalars. How a table came to be decides what may still be
added to it: one that only lies on the way to another may be given a header later, one made by
dotted keys may get further dotted keys, and one written inline is finished. A key is given once.
-/

namespace DashboardGenerator.Toml

/-- How a table came to be. -/
inductive TableOrigin where
  /-- By a header of its own, or as an element of an array of tables. -/
  | header
  /-- On the way to a table that has a header. -/
  | passage
  /-- On the way to a key that is dotted. -/
  | dotted
  /-- Between braces. -/
  | inline
deriving Repr, DecidableEq

/-- A value of a document. An array `ofTables` is one whose elements have headers. -/
inductive Value where
  | scalar (value : Scalar)
  | array (ofTables : Bool) (items : List Value)
  | table (origin : TableOrigin) (entries : List (String × Value))
deriving Repr, Inhabited

/-- The entries of a table, in the order in which their keys first appear. -/
abbrev Entries := List (String × Value)

namespace Entries

/-- Give a key a value in place of the one it has. -/
def replace (entries : Entries) (key : String) (value : Value) : Entries :=
  entries.map fun entry => if entry.1 = key then (key, value) else entry

/-- Give a new key a value. -/
def insertNew? (entries : Entries) (key : String) (value : Value) : Option Entries :=
  match entries.lookup key with
  | some _ => none
  | none => some (entries ++ [(key, value)])

/-- Change the table at a path. Tables that are missing on the way are made, as `made` says; those
that exist are entered if `enters` allows it. An array of tables is entered at its last element. -/
def changeAt? (made : TableOrigin) (enters : TableOrigin → Bool)
    (change : Entries → Option Entries) : List String → Entries → Option Entries
  | [], entries => change entries
  | key :: path, entries =>
    match entries.lookup key with
    | none => do
      let inner ← changeAt? made enters change path []
      some (entries ++ [(key, .table made inner)])
    | some (.table origin inner) =>
      if enters origin then do
        let inner ← changeAt? made enters change path inner
        some (entries.replace key (.table origin inner))
      else none
    | some (.array true items) =>
      match items.getLast? with
      | some (.table origin inner) =>
        if enters origin then do
          let inner ← changeAt? made enters change path inner
          some (entries.replace key (.array true (items.dropLast ++ [.table origin inner])))
        else none
      | _ => none
    | some _ => none

/-- A dotted key enters the tables that were made on the way to others. -/
def dottedEnters : TableOrigin → Bool
  | .passage | .dotted => true
  | .header | .inline => false

/-- A header enters all tables but those written inline. -/
def headerEnters : TableOrigin → Bool
  | .header | .passage | .dotted => true
  | .inline => false

/-- Split a path into the way and its last key. -/
def splitPath? (path : List String) : Option (List String × String) :=
  path.getLast?.map fun key => (path.dropLast, key)

/-- Give a value to the key at a path, which must be new. -/
def assign? (entries : Entries) (path : List String) (value : Value) : Option Entries := do
  let (way, key) ← splitPath? path
  changeAt? .dotted dottedEnters (fun inner => inner.insertNew? key value) way entries

/-- Open the table that a header names: a new one, or one that was only passed through so far. -/
def openTable? (entries : Entries) (path : List String) : Option Entries := do
  let (way, key) ← splitPath? path
  changeAt? .passage headerEnters (fun inner =>
    match inner.lookup key with
    | none => some (inner ++ [(key, .table .header [])])
    | some (.table .passage found) => some (inner.replace key (.table .header found))
    | some _ => none) way entries

/-- Open a new element of the array of tables that a header names. -/
def openElement? (entries : Entries) (path : List String) : Option Entries := do
  let (way, key) ← splitPath? path
  changeAt? .passage headerEnters (fun inner =>
    match inner.lookup key with
    | none => some (inner ++ [(key, .array true [.table .header []])])
    | some (.array true items) =>
      some (inner.replace key (.array true (items ++ [.table .header []])))
    | some _ => none) way entries

/-- Give a value to the key at a path below the table that the last header opened. -/
def assignIn? (entries : Entries) (header : List String) (path : List String) (value : Value) :
    Option Entries :=
  changeAt? .passage headerEnters (fun inner => inner.assign? path value) header entries

end Entries

end DashboardGenerator.Toml
