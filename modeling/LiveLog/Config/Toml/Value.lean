/-!
# Values of a settings file

What a settings file holds: tables of named values. A table remembers how it came to be, because that
decides who may add to it later: a table under a header of its own is complete, one that only a deeper
header or a dotted name implies can still get its own.
-/

namespace LiveLog

/-- How a table came to be. -/
inductive Toml.Origin where
  /-- It has a header of its own, or is the file itself. -/
  | header
  /-- A deeper header implies it. -/
  | implied
  /-- A dotted name implies it. -/
  | dotted
  /-- It was written in braces. -/
  | braces
deriving DecidableEq, Repr

/-- **A value of a settings file.** -/
inductive Toml where
  | string (s : String)
  | integer (n : Int)
  | float (x : Float)
  | boolean (b : Bool)
  /-- A date, a time of day, or both. None of the settings is one. -/
  | moment
  | array (items : List Toml)
  | table (origin : Toml.Origin) (members : List (String × Toml))
  /-- A list of tables, each under a header of its own. -/
  | tables (list : List (List (String × Toml)))
deriving Inhabited

namespace Toml

/-- The members of a table. -/
abbrev Members := List (String × Toml)

/-! ## 1. Building a file -/

/-- Members with another value under a name that is there. -/
def replace (key : String) (value : Toml) (ms : Members) : Members :=
  ms.map fun m => if m.1 == key then (key, value) else m

/-- **Changes the table at a path**, making the tables on the way. `dotted` tells whether the path is a
    dotted name; such a path goes through no table that has a header. A list of tables stands for its
    last table. -/
def alter (dotted : Bool) (change : Origin → Members → Option Members) :
    List String → Origin → Members → Option Members
  | [], origin, ms => change origin ms
  | key :: path, _, ms =>
    match ms.lookup key with
    | none => do
      let origin := if dotted then .dotted else .implied
      let sub ← alter dotted change path origin []
      some (ms ++ [(key, .table origin sub)])
    | some (.table origin sub) =>
      if origin == .braces || (dotted && origin == .header) then none
      else do
        let sub ← alter dotted change path origin sub
        some (replace key (.table origin sub) ms)
    | some (.tables list) =>
      match list.reverse with
      | last :: before => do
        let last ← alter dotted change path .header last
        some (replace key (.tables (before.reverse ++ [last])) ms)
      | [] => none
    | some _ => none

/-- Adds a named value under a dotted path. The table it goes to has to be a dotted one too, unless the
    path is empty, and must not have the name. -/
def assign (path : List String) (key : String) (value : Toml) (origin : Origin) (ms : Members) :
    Option Members :=
  alter true (fun origin sub =>
      if (origin == .dotted) == path.isEmpty || (sub.lookup key).isSome then none
      else some (sub ++ [(key, value)]))
    path origin ms

/-- Opens the table of a header. It may be there already if it is only implied by a deeper header. -/
def openTable (path : List String) (key : String) (ms : Members) : Option Members :=
  alter false (fun _ sub =>
      match sub.lookup key with
      | none => some (sub ++ [(key, .table .header [])])
      | some (.table .implied inner) => some (replace key (.table .header inner) sub)
      | some _ => none)
    path .header ms

/-- Opens another table of a list of tables. -/
def openListed (path : List String) (key : String) (ms : Members) : Option Members :=
  alter false (fun _ sub =>
      match sub.lookup key with
      | none => some (sub ++ [(key, .tables [[]])])
      | some (.tables list) => some (replace key (.tables (list ++ [[]])) sub)
      | some _ => none)
    path .header ms

/-! ## 2. Reading data -/

/-- A text. -/
def text? : Toml → Option String
  | .string s => some s
  | _ => none

/-- A whole number from zero to `limit`. -/
def natural? (limit : Nat) : Toml → Option Nat
  | .integer n => if 0 ≤ n && n ≤ limit then some n.toNat else none
  | _ => none

/-- A double; a whole number is rounded to one. -/
def double? : Toml → Option Float
  | .float x => some x
  | .integer n => some (if n < 0 then -(UInt64.ofNat n.natAbs).toFloat else (UInt64.ofNat n.toNat).toFloat)
  | _ => none

/-- A member that is read if it is there: the value, or the given one in its place. -/
def memberOr {α : Type} (ms : Members) (key : String) (default : α) (read : Toml → Option α) : Option α :=
  match ms.lookup key with
  | none => some default
  | some x => read x

/-- An element that is read if it is there. -/
def elementOr {α : Type} (xs : List Toml) (i : Nat) (default : α) (read : Toml → Option α) : Option α :=
  match xs[i]? with
  | none => some default
  | some x => read x

end Toml
end LiveLog
