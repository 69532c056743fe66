/-! TOML values and how the statements of a document build them up. Headers open tables, and each key of
a pair may be dotted. A table is written in one place: a header or a dotted key never adds to one that
another form has completed.
-/

set_option autoImplicit false

namespace Waymark

/-- How a table came about. -/
inductive TableForm where
  /-- Named by the header of a table inside it. -/
  | implied
  | header
  | dotted
  | inline
  deriving Repr, DecidableEq

inductive Toml where
  | text (value : String)
  /-- A number, a truth value or a time. -/
  | scalar
  | list (items : List Toml)
  | table (form : TableForm) (entries : List (String × Toml))
  /-- The tables of a repeated header; the last one is open. -/
  | tables (earlier : List (List (String × Toml))) (last : List (String × Toml))
  deriving Inhabited

/-- The entries of a table in the order of their first mention. -/
abbrev TomlEntries := List (String × Toml)

namespace Toml

def get? (toml : Toml) (key : String) : Option Toml :=
  match toml with
  | .table _ entries => entries.lookup key
  | _ => none

def text? : Toml → Option String
  | .text value => some value
  | _ => none

def replace (key : String) (value : Toml) (entries : TomlEntries) : TomlEntries :=
  entries.map fun entry => if entry.1 = key then (key, value) else entry

/-- Changes the entries at the end of a path. Tables that are missing on the way are made, dotted or
implied; a dotted path does not enter the table of a header. -/
def descend (isDotted : Bool) (change : TableForm → TomlEntries → Option TomlEntries) :
    List String → TableForm → TomlEntries → Option TomlEntries
  | [], form, entries => change form entries
  | key :: path, _, entries =>
    match entries.lookup key with
    | none => do
      let form := if isDotted then .dotted else .implied
      return entries ++ [(key, .table form (← descend isDotted change path form []))]
    | some (.table form inner) =>
      if form = .inline || (isDotted && form = .header) then none
      else return replace key (.table form (← descend isDotted change path form inner)) entries
    | some (.tables earlier last) =>
      return replace key (.tables earlier (← descend isDotted change path .header last)) entries
    | some _ => none

/-- A dotted key: the way to a table and the name in it. -/
structure Key where
  path : List String
  name : String
  deriving Repr, DecidableEq

/-- Adds a pair to a table. Only a table that dotted keys made can be reached by a dotted key. -/
def addPair (key : Key) (value : Toml) (entries : TomlEntries) : Option TomlEntries :=
  descend true (fun form entries =>
    if (!key.path.isEmpty && form != .dotted) || (entries.lookup key.name).isSome then none
    else some (entries ++ [(key.name, value)])) key.path .header entries

def openTable (key : Key) (entries : TomlEntries) : Option TomlEntries :=
  descend false (fun _ entries =>
    match entries.lookup key.name with
    | none => some (entries ++ [(key.name, .table .header [])])
    | some (.table .implied inner) => some (replace key.name (.table .header inner) entries)
    | some _ => none) key.path .header entries

def openElement (key : Key) (entries : TomlEntries) : Option TomlEntries :=
  descend false (fun _ entries =>
    match entries.lookup key.name with
    | none => some (entries ++ [(key.name, .tables [] [])])
    | some (.tables earlier last) =>
      some (replace key.name (.tables (earlier ++ [last]) []) entries)
    | some _ => none) key.path .header entries

inductive Statement where
  | pair (key : Key) (value : Toml)
  | header (key : Key)
  | element (key : Key)

structure Draft where
  entries : TomlEntries
  current : List String

namespace Draft

def empty : Draft := ⟨[], []⟩

def add (draft : Draft) : Statement → Option Draft
  | .pair key value => do
    let change (_ : TableForm) (entries : TomlEntries) := addPair key value entries
    return { draft with entries := ← descend false change draft.current .header draft.entries }
  | .header key => do return ⟨← openTable key draft.entries, key.path ++ [key.name]⟩
  | .element key => do return ⟨← openElement key draft.entries, key.path ++ [key.name]⟩

end Draft

def ofStatements? (statements : List Statement) : Option Toml := do
  let draft ← statements.foldlM Draft.add .empty
  return .table .header draft.entries

/-- An inline table, complete as it is written. -/
def ofPairs? (pairs : List (Key × Toml)) : Option Toml := do
  let entries ← pairs.foldlM (fun entries pair => addPair pair.1 pair.2 entries) []
  return .table .inline entries

end Toml

end Waymark
