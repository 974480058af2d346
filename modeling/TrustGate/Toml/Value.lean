/-!
# TOML values

Values of TOML, and how tables grow while a document is read. A table remembers
how it came to be, since this decides who may still add to it: a table with a
header of its own, or written in braces, is closed to dotted keys, and a table
that dotted keys have made cannot get a header.
-/

namespace TrustGate.Toml

/-- How a table came to be. -/
inductive TableOrigin
  /-- It was written in braces. -/
  | inline
  /-- It has a header. -/
  | header
  /-- It is named in the header of a table inside it. -/
  | implied
  /-- It is named in a dotted key. -/
  | dotted
deriving Repr, DecidableEq

/-- A value of TOML. Numbers that are no integers, and dates and times, keep their spelling. -/
inductive Value
  | string (text : String)
  | boolean (value : Bool)
  | integer (value : Int)
  | float (spelling : List Char)
  | dateTime (spelling : List Char)
  | array (items : List Value)
  | table (origin : TableOrigin) (members : List (String × Value))
  /-- Tables with a common header in double brackets, the latest first. -/
  | tables (items : List (List (String × Value)))
deriving Repr

abbrev Members := List (String × Value)

def Members.set (name : String) (value : Value) : Members → Members
  | [] => [(name, value)]
  | (other, old) :: members =>
      if other = name then (name, value) :: members else (other, old) :: set name value members

/-- Adds a member under a dotted key. The tables on the way are made as needed. A member is never
replaced, and the key must not lead into a closed table nor end in one that no dotted key has
made. -/
def Members.insert? (members : Members) (value : Value) : List String → Option Members
  | [] => none
  | [name] => if (members.lookup name).isSome then none else some (members.set name value)
  | name :: rest@(_ :: deeper) =>
      match members.lookup name with
      | none => do return members.set name (.table .dotted (← insert? [] value rest))
      | some (.table .dotted inner) => do
          return members.set name (.table .dotted (← insert? inner value rest))
      | some (.table .implied inner) => do
          if deeper.isEmpty then none
          else return members.set name (.table .implied (← insert? inner value rest))
      | some (.tables (inner :: others)) => do
          if deeper.isEmpty then none
          else return members.set name (.tables ((← insert? inner value rest) :: others))
      | _ => none

/-- Changes the members of the table at the end of a path of headers. Tables on the way are made as
needed; of tables in double brackets the latest is meant. -/
def Members.within? (members : Members) (change : Members → Option Members) :
    List String → Option Members
  | [] => change members
  | name :: rest =>
      match members.lookup name with
      | none => do return members.set name (.table .implied (← within? [] change rest))
      | some (.table .inline _) => none
      | some (.table origin inner) => do
          return members.set name (.table origin (← within? inner change rest))
      | some (.tables (inner :: others)) => do
          return members.set name (.tables ((← within? inner change rest) :: others))
      | _ => none

/-- Opens a table by its header. -/
def Members.openTable? (name : String) (members : Members) : Option Members :=
  match members.lookup name with
  | none => some (members.set name (.table .header []))
  | some (.table .implied inner) => some (members.set name (.table .header inner))
  | _ => none

/-- Opens another of the tables with a header in double brackets. -/
def Members.openNext? (name : String) (members : Members) : Option Members :=
  match members.lookup name with
  | none => some (members.set name (.tables [[]]))
  | some (.tables items) => some (members.set name (.tables ([] :: items)))
  | _ => none

end TrustGate.Toml
