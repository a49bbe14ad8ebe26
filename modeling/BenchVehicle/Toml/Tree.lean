import BenchVehicle.Toml.Basic

/-!
# Putting a TOML document together

Members are put under keys of several parts. A key of several parts makes the tables on its way;
so does a heading. A table that was made on the way may still get a heading of its own, and one
made by a key more members by other keys, but no table is defined twice and nothing is put under a
key that is taken.
-/

namespace BenchVehicle.Toml

/-- What stands under a key while a document is put together. -/
inductive Node where
  /-- A value. -/
  | value (v : Toml)
  /-- A table: whether it was made on the way to another, whether by a key, and its members. -/
  | table (implicit dotted : Bool) (members : List (String × Node))
  /-- Tables with one heading, each with its members. -/
  | tables (items : List (List (String × Node)))

/-- The members of a table that is put together. -/
abbrev Members := List (String × Node)

namespace Members

/-- What stands under a key. -/
def get? (ms : Members) (key : String) : Option Node :=
  (ms.find? fun m => m.1 = key).map Prod.snd

/-- Members with a node put under a key, in place of what stands there. -/
def put (key : String) (node : Node) : Members → Members
  | [] => [(key, node)]
  | m :: rest => if m.1 = key then (key, node) :: rest else m :: put key node rest

/-- Goes to the table at a path and changes it there. Tables that are missing on the way are made;
`dotted` tells whether the path is part of a key, which must not lead through tables that have a
heading. The change is told whether the table was made by a key. -/
def at? {α : Type} (dotted : Bool) (change : Bool → Members → Option (α × Members)) :
    List String → Bool → Members → Option (α × Members)
  | [], madeByKey, ms => change madeByKey ms
  | key :: path, _, ms =>
    match get? ms key with
    | none => do
      let (a, sub) ← at? dotted change path dotted []
      return (a, put key (.table true dotted sub) ms)
    | some (.table implicit madeByKey sub) =>
      if dotted && !implicit then none
      else do
        let (a, sub) ← at? dotted change path madeByKey sub
        return (a, put key (.table implicit madeByKey sub) ms)
    | some (.tables items) =>
      match items.getLast? with
      | none => none
      | some last => do
        let (a, sub) ← at? dotted change path false last
        return (a, put key (.tables (items.dropLast ++ [sub])) ms)
    | some (.value _) => none

/-- Puts a value under a key of several parts. The table that it goes into must have been made by a
key if and only if there is more than one part. -/
def insert? (path : List String) (key : String) (v : Toml) (ms : Members) : Option Members :=
  (at? true (fun madeByKey ms =>
    if madeByKey = path.isEmpty then none
    else match get? ms key with
      | some _ => none
      | none => some ((), put key (.value v) ms)) path false ms).map Prod.snd

end Members

mutual

/-- A node as a value. -/
def Node.finish : Node → Toml
  | .value v => v
  | .table _ _ members => .table (finishMembers members)
  | .tables items => .array (finishItems items)

/-- The values of members. -/
def finishMembers : List (String × Node) → List (String × Toml)
  | [] => []
  | (key, node) :: rest => (key, node.finish) :: finishMembers rest

/-- The tables of one heading. -/
def finishItems : List (List (String × Node)) → List Toml
  | [] => []
  | members :: rest => .table (finishMembers members) :: finishItems rest

end

/-- A line of a document. -/
inductive Line where
  /-- The heading of a table. -/
  | heading (path : List String) (name : String)
  /-- The heading of one of several tables. -/
  | itemHeading (path : List String) (name : String)
  /-- A member of the table under the last heading. -/
  | entry (path : List String) (name : String) (v : Toml)

/-- A document as far as it was put together. -/
structure Draft where
  /-- The tables before the one being filled. -/
  root : Members := []
  /-- The members of the table being filled. -/
  current : Members := []
  /-- The heading of the table being filled: whether it is one of several, its path and its name.
  Nothing before the first heading. -/
  heading : Option (Bool × List String × String) := none

namespace Draft

/-- The document with the table being filled put in its place. -/
def close? (d : Draft) : Option Members :=
  match d.heading with
  | none => some d.current
  | some (false, path, name) =>
    (Members.at? false (fun _ ms =>
      match Members.get? ms name with
      | none | some (.table true _ _) => some ((), Members.put name (.table false false d.current) ms)
      | some _ => none) path false d.root).map Prod.snd
  | some (true, path, name) =>
    (Members.at? false (fun _ ms =>
      match Members.get? ms name with
      | some (.tables items) => some ((), Members.put name (.tables (items ++ [d.current])) ms)
      | none => some ((), Members.put name (.tables [d.current]) ms)
      | some _ => none) path false d.root).map Prod.snd

/-- Starts a table. It goes on with the members of a table that was made on the way, but not by a
key. -/
def open? (path : List String) (name : String) (root : Members) : Option Draft := do
  let (current, root) ← Members.at? false (fun _ ms =>
    match Members.get? ms name with
    | none => some ([], ms)
    | some (.table true false members) => some (members, ms)
    | some _ => none) path false root
  return { root, current, heading := some (false, path, name) }

/-- Starts one of several tables. -/
def openItem? (path : List String) (name : String) (root : Members) : Option Draft := do
  let ((), root) ← Members.at? false (fun _ ms =>
    match Members.get? ms name with
    | none | some (.tables _) => some ((), ms)
    | some _ => none) path false root
  return { root, heading := some (true, path, name) }

/-- Adds a line. -/
def add? (d : Draft) : Line → Option Draft
  | .heading path name => d.close?.bind (open? path name)
  | .itemHeading path name => d.close?.bind (openItem? path name)
  | .entry path name v => do
    return { d with current := ← Members.insert? path name v d.current }

end Draft

/-- The document of some lines. -/
def ofLines? (lines : List Line) : Option Toml := do
  let d ← lines.foldlM Draft.add? {}
  return .table (finishMembers (← d.close?))

/-- The inline table of some members. -/
def ofEntries? (entries : List (List String × String × Toml)) : Option Toml := do
  let ms ← entries.foldlM (fun ms (path, name, v) => Members.insert? path name v ms) []
  return .table (finishMembers ms)

end BenchVehicle.Toml
