/-
This file defines the tables that a TOML text builds up piece by piece. A table comes into being
in one of three ways, and the way decides who may still add to it: a table that was declared by
a header is open to headers below it; a table that is only on the way to another header may
still be declared itself; a table made by a dotted key is open to other dotted keys.
-/
import Wayfinder.Datum

namespace Wayfinder.Toml

/-- How a table came into being: by its own header, on the way to the header of a table inside
it, or by a dotted key. -/
inductive Origin where
  | declared
  | implied
  | dotted
  deriving DecidableEq, Repr

/-- What a name stands for inside a table: a finished value, a table, or a list of tables, the
newest first. -/
inductive Node where
  | value (datum : Datum)
  | table (origin : Origin) (members : List (String × Node))
  | tables (newestFirst : List (List (String × Node)))

/-- The members of a table. -/
abbrev Members := List (String × Node)

mutual

/-- A node as plain data. -/
def Node.toDatum : Node → Datum
  | .value datum => datum
  | .table _ members => .record (membersToData members)
  | .tables newestFirst => .list (tablesToData newestFirst).reverse

/-- Members as members of plain data. -/
def membersToData : List (String × Node) → List (String × Datum)
  | [] => []
  | (name, node) :: rest => (name, node.toDatum) :: membersToData rest

/-- Tables as records, in the same order. -/
def tablesToData : List (List (String × Node)) → List Datum
  | [] => []
  | members :: rest => .record (membersToData members) :: tablesToData rest

end

namespace Members

/-- Change what a name stands for; a new name comes last. -/
def change (name : String) (update : Option Node → Option Node) : Members → Option Members
  | [] => (update none).map fun node => [(name, node)]
  | member :: rest =>
    if member.1 = name then (update (some member.2)).map fun node => (name, node) :: rest
    else (change name update rest).map (member :: ·)

/-- Change the members of the table that a header names, starting from a table outside. Tables on
the way that do not exist yet are implied, and of a list of tables the newest is meant. -/
def within : List String → (Members → Option Members) → Members → Option Members
  | [], update, members => update members
  | name :: path, update, members =>
    members.change name fun
      | none => (within path update []).map (Node.table .implied)
      | some (.table origin inner) => (within path update inner).map (Node.table origin)
      | some (.tables (newest :: older)) =>
        (within path update newest).map fun changed => .tables (changed :: older)
      | some (.tables []) => none
      | some (.value _) => none

/-- Declare a table by its header. -/
def declare (path : List String) (name : String) (members : Members) : Option Members :=
  members.within path fun outer => outer.change name fun
    | none => some (.table .declared [])
    | some (.table .implied inner) => some (.table .declared inner)
    | some _ => none

/-- Add a table to a list of tables by its header. -/
def declareItem (path : List String) (name : String) (members : Members) : Option Members :=
  members.within path fun outer => outer.change name fun
    | none => some (.tables [[]])
    | some (.tables newestFirst) => some (.tables ([] :: newestFirst))
    | some _ => none

/-- Bind a dotted key, given as the names before its last one and the last one. The table that
the last name goes into has to be made by dotted keys alone, and the tables on the way must not
be declared. -/
def assign : List String → String → Datum → Members → Option Members
  | [], name, datum, members =>
    members.change name fun
      | none => some (.value datum)
      | some _ => none
  | step :: path, name, datum, members =>
    members.change step fun
      | none => (assign path name datum []).map (Node.table .dotted)
      | some (.table .dotted inner) => (assign path name datum inner).map (Node.table .dotted)
      | some (.table .implied inner) =>
        if path.isEmpty then none else (assign path name datum inner).map (Node.table .implied)
      | some (.tables (newest :: older)) =>
        if path.isEmpty then none
        else (assign path name datum newest).map fun changed => .tables (changed :: older)
      | some _ => none

end Members

end Wayfinder.Toml
