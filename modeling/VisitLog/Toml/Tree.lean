import VisitLog.Toml.Value

/-!
# Tables under construction

A document makes its tables by headers and by dotted keys, and each table remembers how it was made:
a table that a header has named is not named again nor extended by dotted keys, and a table made by
dotted keys is not named by a header. A value once set stays.

Main statement: `assign_twice` (a key is not set twice).
-/

namespace VisitLog.Toml

/-- How a table came about. -/
inductive Origin where
  /-- A header named it. -/
  | header
  /-- It lies on the way to a table that a header named. -/
  | onTheWay
  /-- A dotted key made it. -/
  | dotted
  deriving DecidableEq, Repr

/-- A part of a document under construction. -/
inductive Node where
  | value (v : Toml)
  | table (origin : Origin) (fields : List (String × Node))
  /-- A list of tables, each named by a header. -/
  | tables (items : List (List (String × Node)))

/-- Parts of a document by their keys. -/
abbrev Nodes := List (String × Node)

namespace Nodes

/-- Puts a part at a key, in place of another one. -/
def put (ns : Nodes) (key : String) (n : Node) : Nodes :=
  if ns.any fun x => x.1 == key then ns.map fun x => if x.1 == key then (key, n) else x
  else ns ++ [(key, n)]

/-- Changes the fields of the last of several tables. -/
def updateLast (f : Nodes → Option Nodes) : List Nodes → Option (List Nodes)
  | [] => none
  | [t] => (f t).map fun t => [t]
  | t :: ts => (updateLast f ts).map (t :: ·)

/-- Changes the table at the end of a path of a header; tables that are not there are made. -/
def at? (f : Nodes → Option Nodes) : (path : List String) → Nodes → Option Nodes
  | [], ns => f ns
  | key :: path, ns =>
    match ns.lookup key with
    | none => (at? f path []).map fun t => ns.put key (.table .onTheWay t)
    | some (.table origin t) => (at? f path t).map fun t => ns.put key (.table origin t)
    | some (.tables ts) => (updateLast (at? f path) ts).map fun ts => ns.put key (.tables ts)
    | some (.value _) => none

/-- Makes the table that a header names. -/
def openTable (ns : Nodes) (path : List String) (key : String) : Option Nodes :=
  at? (fun ns =>
    match ns.lookup key with
    | none => some (ns.put key (.table .header []))
    | some (.table .onTheWay t) => some (ns.put key (.table .header t))
    | some _ => none) path ns

/-- Appends a table to the list of tables that a header names. -/
def openItem (ns : Nodes) (path : List String) (key : String) : Option Nodes :=
  at? (fun ns =>
    match ns.lookup key with
    | none => some (ns.put key (.tables [[]]))
    | some (.tables ts) => some (ns.put key (.tables (ts ++ [[]])))
    | some _ => none) path ns

/-- Sets a key below a path of dotted keys. The table that holds the key has to be made by dotted
keys, as `isOpen` tells, or be the one that the document is in. -/
def assign (key : String) (v : Toml) : (isOpen : Bool) → (path : List String) → Nodes → Option Nodes
  | isOpen, [], ns =>
    if isOpen ∧ (ns.lookup key).isNone then some (ns.put key (.value v)) else none
  | _, step :: path, ns =>
    match ns.lookup step with
    | none => (assign key v true path []).map fun t => ns.put step (.table .dotted t)
    | some (.table .dotted t) => (assign key v true path t).map fun t =>
        ns.put step (.table .dotted t)
    | some (.table .onTheWay t) =>
      (assign key v false path t).map fun t => ns.put step (.table .onTheWay t)
    | some (.tables ts) => (updateLast (assign key v false path) ts).map fun ts =>
        ns.put step (.tables ts)
    | some (.table .header _) | some (.value _) => none

end Nodes

mutual

/-- The finished part. -/
def Node.finish : Node → Toml
  | .value v => v
  | .table _ fs => .table (finishFields fs)
  | .tables ts => .list (finishTables ts)

/-- The finished fields. -/
def finishFields : Nodes → List (String × Toml)
  | [] => []
  | (k, n) :: ns => (k, n.finish) :: finishFields ns

/-- The finished tables of a list. -/
def finishTables : List Nodes → List Toml
  | [] => []
  | t :: ts => .table (finishFields t) :: finishTables ts

end

theorem assign_twice {ns : Nodes} {key : String} {n : Node} (v : Toml)
    (h : ns.lookup key = some n) :
    ns.assign key v true [] = none := by
  simp [Nodes.assign, h]

end VisitLog.Toml
