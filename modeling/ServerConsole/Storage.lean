import ServerConsole.Text.Pieces

/-!
# Stored files

Folders hold files and folders. A path is a text with slashes that is walked name by name: `.` stays
in its folder, `..` leaves it, and every folder on the way has to be there.

* `Storage.createFolders?`  the folders of a path, those that are missing put in;
* `Storage.append?`         text at the end of a file, which is put in if it is missing;
* `Storage.holds`           whether there is something at a path;
* `Storage.textAt?`         the content of a file.
-/

namespace ServerConsole

inductive Storage
  | file (text : String)
  | folder (entries : List (String × Storage))

namespace Storage

def empty : Storage := folder []

/-! ## entries -/

def named? (name : String) (entries : List (String × Storage)) : Option Storage :=
  (entries.find? (·.1 == name)).map (·.2)

def withEntry (name : String) (s : Storage) (entries : List (String × Storage)) :
    List (String × Storage) :=
  (name, s) :: entries.filter (·.1 != name)

/-! ## places -/

/-- the names of the folders from the root down -/
abbrev Place := List String

def at? : Place → Storage → Option Storage
  | [], s => some s
  | _ :: _, file _ => none
  | name :: more, folder entries => (named? name entries).bind (at? more)

/-- something new at a place; the folders above it have to be there -/
def put? (new : Storage) : Place → Storage → Option Storage
  | [], _ => some new
  | _ :: _, file _ => none
  | [name], folder entries => some (folder (withEntry name new entries))
  | name :: more, folder entries =>
    (named? name entries).bind fun inner =>
      (put? new more inner).map fun inner => folder (withEntry name inner entries)

/-! ## names -/

/-- the longest name and the longest path, in bytes -/
def maxName : Nat := 255

def maxPath : Nat := 4095

def isName (name : String) : Bool := name.utf8ByteSize ≤ maxName && !name.toList.contains '\x00'

def names (path : String) : List String := (Text.splitOn '/' path.toList).map String.ofList

def isShort (path : String) : Bool := path.utf8ByteSize ≤ maxPath

/-! ## walks -/

/-- one name further; a folder that is missing is put in where `make` says so -/
def enter? (make : Bool) (walk : Storage × Place) (name : String) : Option (Storage × Place) :=
  let (s, place) := walk
  if name = "" ∨ name = "." then some walk
  else if name = ".." then some (s, place.dropLast)
  else if !isName name then none
  else
    let inner := place ++ [name]
    match at? inner s with
    | some (folder _) => some (s, inner)
    | some (file _) => none
    | none => if make then (put? empty inner s).map (·, inner) else none

def walk? (make : Bool) (s : Storage) (path : List String) : Option (Storage × Place) :=
  path.foldlM (enter? make) (s, [])

/-! ## operations -/

/-- whether a path ends in a `.`, behind which there may be slashes -/
def endsInPlace (path : List String) : Bool := (path.filter (· != "")).getLast? = some "."

/-- a path without the names at its end that lead nowhere else -/
def withoutPlaces (path : List String) : List String :=
  (path.reverse.dropWhile fun name => name == "" || name == ".").reverse

/-- `none` when a file is in the way; what a path that ends in a `.` leads to is not put in, only what
is above it -/
def createFolders? (path : String) (s : Storage) : Option Storage :=
  let all := names path
  let last := withoutPlaces all
  if !isShort path then none
  else if endsInPlace all then
    (walk? true s last.dropLast).bind fun (s, _) => (walk? false s last).map (·.1)
  else (walk? true s all).map (·.1)

/-- the place of a path's file; its folder has to be there -/
def place? (path : String) (s : Storage) : Option Place :=
  match (names path).getLast? with
  | none => none
  | some last =>
    if ["", ".", ".."].contains last || !isName last || !isShort path then none
    else (walk? false s (names path).dropLast).map fun (_, place) => place ++ [last]

def append? (path text : String) (s : Storage) : Option Storage :=
  (place? path s).bind fun place =>
    match at? place s with
    | none => put? (file text) place s
    | some (file old) => put? (file (old ++ text)) place s
    | some (folder _) => none

/-- whether a path leads to a file or a folder -/
def holds (path : String) (s : Storage) : Bool :=
  ((place? path s).bind fun place => at? place s).isSome
    || (isShort path && (walk? false s (names path)).isSome)

def textOf? : Storage → Option String
  | file text => some text
  | folder _ => none

def textAt? (path : String) (s : Storage) : Option String :=
  ((place? path s).bind fun place => at? place s).bind textOf?

end Storage

end ServerConsole
