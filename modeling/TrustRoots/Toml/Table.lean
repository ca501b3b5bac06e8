import TrustRoots.Toml.Value

/-! Building tables from the statements of a document. A key is never bound twice. A table that
a header or braces have given is closed to dotted keys from elsewhere, and a header may only
complete a table that earlier headers implied. Of an array of tables, only the latest is open. -/

namespace TrustRoots.Toml.Table

def value? (table : Table) (key : String) : Option Value :=
  table.lookup key

/-- Binds a key in its old place, or at the end. -/
def set (table : Table) (key : String) (value : Value) : Table :=
  if (table.value? key).isSome then
    table.map fun bound => if bound.1 = key then (key, value) else bound
  else table ++ [(key, value)]

/-- Binds a key at the end of a path of dotted keys. The table that holds the key must itself
have come from dotted keys, unless the path is empty. -/
def assign : List String → String → Value → Table → Option Table
  | [], key, value, table =>
    if (table.value? key).isSome then none else some (table ++ [(key, value)])
  | step :: path, key, value, table =>
    match table.value? step with
    | none => do
      let inner ← assign path key value []
      return table.set step (.table .dotted inner)
    | some (.table .dotted inner) => do
      let inner ← assign path key value inner
      return table.set step (.table .dotted inner)
    | some (.table .implied inner) =>
      if path = [] then none
      else do
        let inner ← assign path key value inner
        return table.set step (.table .implied inner)
    | some (.tables latest earlier) =>
      if path = [] then none
      else do
        let latest ← assign path key value latest
        return table.set step (.tables latest earlier)
    | some _ => none

structure Assignment where
  path : List String
  key : String
  value : Value

def assignAll (assignments : List Assignment) (table : Table) : Option Table :=
  assignments.foldlM (fun table next => table.assign next.path next.key next.value) table

/-- A table under a header of its own. It starts from what earlier headers implied. -/
def placeTable (key : String) (assignments : List Assignment) (table : Table) : Option Table := do
  let start ← match table.value? key with
    | none => some []
    | some (.table .implied inner) => some inner
    | some _ => none
  let inner ← assignAll assignments start
  return table.set key (.table .headed inner)

def placeElement (key : String) (assignments : List Assignment) (table : Table) : Option Table := do
  let earlier ← match table.value? key with
    | none => some []
    | some (.tables latest earlier) => some (latest :: earlier)
    | some _ => none
  let latest ← assignAll assignments []
  return table.set key (.tables latest earlier)

/-- Goes down the path of a header, where missing tables become implied ones, and applies a
change at its end. -/
def descend (change : Table → Option Table) : List String → Table → Option Table
  | [], table => change table
  | step :: path, table =>
    match table.value? step with
    | none => do
      let inner ← descend change path []
      return table.set step (.table .implied inner)
    | some (.table .written _) => none
    | some (.table origin inner) => do
      let inner ← descend change path inner
      return table.set step (.table origin inner)
    | some (.tables latest earlier) => do
      let latest ← descend change path latest
      return table.set step (.tables latest earlier)
    | some _ => none

end TrustRoots.Toml.Table
