import ScriptLint.Config.Wire

/-!
# TOML tables

A document builds a tree of tables, by headers and by keys with points in them. A table that was only
passed through can still be opened by a header, once; a table that keys have made can be added to by
keys alone; and nothing is added to a value. `put?` sets a key, `openTable?` and `openItem?` take
headers, and each refuses what these rules forbid.
-/

namespace ScriptLint.Toml

/-- How a table came about: on the way to another one, by a key with a point, or by a header. -/
inductive Origin where
  | passed
  | key
  | header
  deriving DecidableEq, Repr

inductive Node where
  | value (v : Wire)
  | table (origin : Origin) (entries : List (String × Node))
  /-- A list of tables made by headers, the last one being open; none is ever empty. -/
  | tables (items : List (List (String × Node)))

abbrev Entries := List (String × Node)

/-- Changes the last item of a list. -/
def changeLast? (change : α → Option α) : List α → Option (List α)
  | [] => none
  | [item] => (change item).map ([·])
  | item :: items => (changeLast? change items).map (item :: ·)

/-- Changes the node of a key in place, or adds the node that `change` makes of nothing. -/
def changeNode? (key : String) (change : Option Node → Option Node) : Entries → Option Entries
  | [] => (change none).map fun n => [(key, n)]
  | (k, n) :: rest =>
    if k = key then (change (some n)).map fun n => (k, n) :: rest
    else (changeNode? key change rest).map ((k, n) :: ·)

/-- Changes what is inside a node: a table, or the open item of a list of tables. -/
def inside? (change : Entries → Option Entries) : Node → Option Node
  | .value _ => none
  | .table origin entries => (change entries).map (.table origin)
  | .tables items => (changeLast? change items).map .tables

/-- A key set for the first time. -/
def setNew? (value : Wire) : Option Node → Option Node
  | none => some (.value value)
  | some _ => none

/-- Whether a key with points may lead through a node; the last node on its way must have been made by
such a key. -/
def leads (isLast : Bool) : Node → Bool
  | .table .passed _ => ! isLast
  | .table .key _ => true
  | .tables _ => ! isLast
  | _ => false

/-- Sets a key with points. -/
def put? (value : Wire) : List String → Entries → Option Entries
  | [], _ => none
  | [key], entries => changeNode? key (setNew? value) entries
  | key :: path, entries =>
    changeNode? key (fun there =>
      match there with
      | none => (put? value path []).map (.table .key)
      | some node => if leads (path.length = 1) node then inside? (put? value path) node else none)
      entries

/-- Takes a path of header keys, with a change to the node of the last one. -/
def follow? (change : Option Node → Option Node) : List String → Entries → Option Entries
  | [], _ => none
  | [key], entries => changeNode? key change entries
  | key :: path, entries =>
    changeNode? key (fun there =>
      match there with
      | none => (follow? change path []).map (.table .passed)
      | some node => inside? (follow? change path) node) entries

/-- Takes the header of a table. -/
def openTable? : List String → Entries → Option Entries :=
  follow? fun there =>
    match there with
    | none => some (.table .header [])
    | some (.table .passed entries) => some (.table .header entries)
    | _ => none

/-- Takes the header of the next item of a list of tables. -/
def openItem? : List String → Entries → Option Entries :=
  follow? fun there =>
    match there with
    | none => some (.tables [[]])
    | some (.tables items) => some (.tables (items ++ [[]]))
    | _ => none

/-- Changes the table that a header has opened; the path is empty for the document itself. -/
def within? (change : Entries → Option Entries) : (header : List String) → Entries → Option Entries
  | [], entries => change entries
  | key :: path, entries =>
    changeNode? key (fun there =>
      match there with
      | none => none
      | some node => inside? (within? change path) node) entries

/-- Members in the order of their keys. -/
def sortMembers (members : List (String × Wire)) : List (String × Wire) :=
  members.mergeSort fun a b => a.1 ≤ b.1

mutual
/-- The value of a node; the members of tables come in the order of their keys. -/
def Node.toWire : Node → Wire
  | .value v => v
  | .table _ entries => .obj (sortMembers (entriesToWire entries))
  | .tables items => .arr (itemsToWire items)

def entriesToWire : List (String × Node) → List (String × Wire)
  | [] => []
  | (key, node) :: rest => (key, node.toWire) :: entriesToWire rest

def itemsToWire : List (List (String × Node)) → List Wire
  | [] => []
  | entries :: rest => .obj (sortMembers (entriesToWire entries)) :: itemsToWire rest
end

end ScriptLint.Toml
