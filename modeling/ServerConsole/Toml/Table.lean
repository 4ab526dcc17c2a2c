import ServerConsole.Toml.Value

/-!
# Building tables

A key is a path of names. Everything is defined once: a key that has a value gets no second one, a
table under a header no second header, and a table in braces nothing more at all.

* `descend`   a change at the end of a path; tables that are missing on the way are put in;
* `assign?`   a value at a key;
* `declare?`  a table under a header;
* `append?`   one more table under a repeated header.
-/

namespace ServerConsole.Toml

/-- a path of names -/
abbrev Key := List String

/-- dotted keys may not reach into a table that has a header or braces, headers only not into one
that has braces; of tables under a repeated header the last one counts -/
def descend (dotted : Bool) (change : Origin → Entries → Option Entries) :
    Key → Origin → Entries → Option Entries
  | [], origin, es => change origin es
  | name :: path, _, es =>
    match es.value? name with
    | none =>
      (descend dotted change path (if dotted then .dotted else .implied) []).map fun inner =>
        es.put name (.table (if dotted then .dotted else .implied) inner)
    | some (.table origin inner) =>
      if origin = .braces ∨ (dotted ∧ origin = .header) then none
      else (descend dotted change path origin inner).map fun inner =>
        es.put name (.table origin inner)
    | some (.tables items) =>
      match items.getLast? with
      | some last => (descend dotted change path .header last).map fun last =>
          es.put name (.tables (items.dropLast ++ [last]))
      | none => none
    | some _ => none

/-! ## keys and values -/

/-- a name that is still free in the table -/
def define? (name : String) (v : Value) (es : Entries) : Option Entries :=
  if (es.value? name).isSome then none else some (es.put name v)

/-- a value at a key of the table; the tables on the way have to come from dotted keys -/
def assign? (key : Key) (v : Value) (es : Entries) : Option Entries :=
  match key.getLast? with
  | none => none
  | some name =>
    let place := key.dropLast
    descend true (fun origin es =>
      if !place.isEmpty && origin != .dotted then none else define? name v es) place .header es

/-! ## headers -/

def declareHere? (name : String) (es : Entries) : Option Entries :=
  match es.value? name with
  | none => some (es.put name (.table .header []))
  | some (.table .implied inner) => some (es.put name (.table .header inner))
  | some _ => none

def appendHere? (name : String) (es : Entries) : Option Entries :=
  match es.value? name with
  | none => some (es.put name (.tables [[]]))
  | some (.tables items) => some (es.put name (.tables (items ++ [[]])))
  | some _ => none

def atHeader? (change : String → Entries → Option Entries) (key : Key) (es : Entries) :
    Option Entries :=
  key.getLast?.bind fun name => descend false (fun _ => change name) key.dropLast .header es

def declare? : Key → Entries → Option Entries := atHeader? declareHere?

def append? : Key → Entries → Option Entries := atHeader? appendHere?

end ServerConsole.Toml
