import TrustRoots.Toml.Scalar
import TrustRoots.Toml.Table
import TrustRoots.Toml.Text

/-! Whole documents. A document is a list of sections, each under its header, and gives one root
table. Brackets nest at most eighty deep, and a dotted key has at most eighty parts. -/

namespace TrustRoots.Toml
open Scan

def maxDepth : Nat := 80

def isBareKey (character : Char) : Bool :=
  character.isAlphanum || character = '_' || character = '-'

def simpleKey : Scan String := do
  let next ← peek
  if next = some '"' || next = some '\'' then return String.ofList (← quotedLine)
  let bare ← span isBareKey
  if bare.isEmpty then failure
  return String.ofList bare

/-- A further part of a dotted key, behind its dot. -/
def furtherKey : Scan (Option String) := do
  blanks
  if ← accept ['.'] then
    blanks
    return some (← simpleKey)
  else return none

/-- A dotted key: the path to a table, and the key in it. -/
def keyPath : Scan (List String × String) := do
  let first ← simpleKey
  let others ← many furtherKey
  let parts := first :: others
  if maxDepth < parts.length then failure
  return (parts.dropLast, parts.getLast?.getD first)

/-- A key with its value, and what may stand around the mark between them. -/
def assignment (space : Scan Unit) (value : Scan Value) : Scan Table.Assignment := do
  let (path, key) ← keyPath
  space
  expect ['=']
  space
  return { path, key, value := ← value }

/-- A value in which brackets nest at most as deep as given. -/
def value : Nat → Scan Value
  | 0 => do
    match ← peek with
    | some '"' | some '\'' => return .text (String.ofList (← quoted))
    | _ => Scalar.scalar
  | depth + 1 => do
    match ← peek with
    | some '"' | some '\'' => return .text (String.ofList (← quoted))
    | some '[' =>
      expect ['[']
      return .array (← bracketed ']' (value depth))
    | some '\x7b' =>
      expect ['\x7b']
      let assignments ← bracketed '\x7d' (assignment gaps (value depth))
      match Table.assignAll assignments [] with
      | some entries => return .table .written entries
      | none => failure
    | _ => Scalar.scalar

/-- What the statements under a header belong to. -/
inductive Header where
  | root
  | table (path : List String) (key : String)
  | element (path : List String) (key : String)

structure Section where
  header : Header
  assignments : List Table.Assignment

/-- A statement of a line, if the line has one. -/
inductive Statement where
  | header (header : Header)
  | assignment (assignment : Table.Assignment)
  | nothing

def header : Scan Header := do
  let isElement ← accept ['[', '[']
  if !isElement then expect ['[']
  blanks
  let (path, key) ← keyPath
  blanks
  if isElement then
    expect [']', ']']
    return .element path key
  else
    expect [']']
    return .table path key

def statement : Scan Statement := do
  blanks
  match ← peek with
  | none | some '\n' | some '\r' | some '#' => return .nothing
  | some '[' => return .header (← header)
  | some _ => return .assignment (← assignment blanks (value maxDepth))

def line : Scan (Option Statement) := do
  if ← atEnd then return none
  let found ← statement
  lineEnd
  return some found

/-- The statements sorted under their headers, both in their order. The section that is still
open stands first among those passed in and collects its statements last first. -/
def sections : Section → List Statement → List Section
  | current, [] => [{ current with assignments := current.assignments.reverse }]
  | current, .nothing :: rest => sections current rest
  | current, .assignment next :: rest =>
    sections { current with assignments := next :: current.assignments } rest
  | current, .header next :: rest =>
    { current with assignments := current.assignments.reverse } :: sections ⟨next, []⟩ rest

def addSection (table : Table) (part : Section) : Option Table :=
  match part.header with
  | .root => Table.assignAll part.assignments table
  | .table path key => Table.descend (Table.placeTable key part.assignments) path table
  | .element path key => Table.descend (Table.placeElement key part.assignments) path table

/-- The root table of a document. A byte order mark in front of it is passed over. -/
def parse? (source : String) : Option Table := do
  let text := match source.toList with
    | '\ufeff' :: rest => rest
    | text => text
  let (statements, _) ← many line text
  (sections ⟨.root, []⟩ statements).foldlM addSection []

end TrustRoots.Toml
