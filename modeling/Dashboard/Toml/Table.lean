/-
  Dashboard.Toml.Table
  ────────────────────
  What keys and headers define, and what they may not define again.

  A table comes into being in one of three ways: by its own header, implied
  by the header of a table inside it, or by a dotted key.  A header may still
  name an implied table, once; a dotted key goes through implied and dotted
  tables, and ends in a dotted one.  A list of tables grows only by its own
  double headers; a path that goes through it goes through its last table.
  Every other second definition is refused.
-/
import Dashboard.Json.Value

namespace Dashboard.Toml

open Dashboard.Json (Value)

/-! ## §1. Definitions so far. -/

/-- How a table came into being. -/
inductive Form where
  | header
  | implied
  | dotted
  deriving DecidableEq, Repr

/-- What a key stands for so far. -/
inductive Node where
  /-- A complete value. -/
  | value (v : Value)
  | table (form : Form) (members : List (String × Node))
  /-- The tables of a list, newest last. -/
  | tables (elements : List (List (String × Node)))

/-- The keys of a table. -/
abbrev Table := Keyed Node

/-! ## §2. Defining. -/

namespace Table

/-- Give a value to a dotted key. -/
def assign (key : String) (v : Value) : List String → Table → Option Table
  | [], t => if t.contains key then none else some (t.insert key (.value v))
  | k :: path, t =>
    match t.get? k with
    | none => (assign key v path []).map fun inner => t.insert k (.table .dotted inner)
    | some (.table form inner) =>
      -- a table with a header of its own takes no dotted key from outside
      if form = .header ∨ (path = [] ∧ form ≠ .dotted) then none
      else (assign key v path inner).map fun inner => t.insert k (.table form inner)
    | some (.tables elements) =>
      match elements.reverse with
      | last :: older =>
        if path = [] then none
        else (assign key v path last).map fun last =>
          t.insert k (.tables (older.reverse ++ [last]))
      | [] => none
    | some (.value _) => none

/-- Change the table at a path, making the tables on the way that are missing. -/
def atPath (change : Table → Option Table) : List String → Table → Option Table
  | [], t => change t
  | k :: path, t =>
    match t.get? k with
    | none => (atPath change path []).map fun inner => t.insert k (.table .implied inner)
    | some (.table form inner) =>
      (atPath change path inner).map fun inner => t.insert k (.table form inner)
    | some (.tables elements) =>
      match elements.reverse with
      -- a path goes on in the newest table of a list
      | last :: older =>
        (atPath change path last).map fun last => t.insert k (.tables (older.reverse ++ [last]))
      | [] => none
    | some (.value _) => none

/-- Define a table by its header. -/
def declare (key : String) (t : Table) : Option Table :=
  match t.get? key with
  | none => some (t.insert key (.table .header []))
  | some (.table .implied inner) => some (t.insert key (.table .header inner))
  | some _ => none

/-- Add a table to a list by a double header. -/
def extend (key : String) (t : Table) : Option Table :=
  match t.get? key with
  | none => some (t.insert key (.tables [[]]))
  | some (.tables elements) => some (t.insert key (.tables (elements ++ [[]])))
  | some _ => none

end Table

/-! ## §3. The data. -/

mutual
/-- What a key stands for, as data. -/
def Node.data : Node → Value
  | .value v => v
  | .table _ members => .object (dataOfMembers members)
  | .tables elements => .list (dataOfElements elements)

/-- `Node.data` on every member. -/
def dataOfMembers : List (String × Node) → List (String × Value)
  | [] => []
  | (k, n) :: rest => (k, n.data) :: dataOfMembers rest

/-- `Node.data` on every member of every table of a list. -/
def dataOfElements : List (List (String × Node)) → List Value
  | [] => []
  | t :: rest => .object (dataOfMembers t) :: dataOfElements rest
end

/-- A table as data. -/
def Table.data (t : Table) : Value := .object (dataOfMembers t)

end Dashboard.Toml
