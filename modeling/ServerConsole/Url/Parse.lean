import ServerConsole.Text.Blank
import ServerConsole.Url.Basic
import ServerConsole.Url.Path

/-!
# Reading URLs

`Url.parse` reads an absolute URL. Blanks and control characters around the text and line breaks and
tabs inside it are dropped; the parts are then cut off one by one: fragment, query, scheme, authority
and path.
-/

namespace ServerConsole.Url

open Text

/-! ## cleaning -/

def isLowest (c : Char) : Bool := c.val ≤ 0x20

def trimmed (cs : List Char) : List Char := dropTail isLowest (cs.dropWhile isLowest)

/-! ## scheme -/

def isSchemeChar (c : Char) : Bool := c.isAlphanum || c == '+' || c == '-' || c == '.'

/-- a letter and further scheme characters up to a colon -/
def scheme? (cs : List Char) : Option (List Char × List Char) :=
  match cut ':' cs with
  | (front, some rest) =>
    let scheme := withoutBreaks front
    if scheme.all isSchemeChar && scheme.head?.any Char.isAlpha then
      some (scheme.map Char.toLower, rest)
    else none
  | _ => none

/-! ## authority -/

def endsAuthority (special : Bool) (c : Char) : Bool := c == '/' || (special && c == '\\')

/-- user and password in front of a host, or nothing -/
def credentials (cs : List Char) : List Char × List Char :=
  let (user, password) := cut ':' cs
  (percentEncode userinfoSet user, percentEncode userinfoSet (password.getD []))

/-- the text of a host: up to a colon outside brackets -/
def hostLength (inside : Bool) : List Char → Nat
  | [] => 0
  | ':' :: cs => if inside then hostLength inside cs + 1 else 0
  | '[' :: cs => hostLength true cs + 1
  | ']' :: cs => hostLength false cs + 1
  | _ :: cs => hostLength inside cs + 1

/-- a port in digits, and what follows a backslash behind it -/
def parsePort (scheme : List Char) (cs : List Char) : Except Fault (Option UInt16 × List Char) :=
  let port := cs.takeWhile isDigit
  let rest := cs.dropWhile isDigit
  if ofDigits port > 65535 then .error .badPort
  else match rest with
    | [] | '\\' :: _ =>
      let value := (ofDigits port).toUInt16
      let plain := port.isEmpty || some value == defaultPort? scheme
      .ok (if plain then none else some value, rest)
    | _ => .error .badPort

/-- host and port, and what is left of the text -/
def parseHostPort (scheme : List Char) (cs : List Char) :
    Except Fault (Host × Option UInt16 × List Char) := do
  let special := isSpecial scheme
  let length := hostLength false cs
  let text := cs.take length
  if special && text.isEmpty then throw .emptyHost
  let host ← if special then Host.parse text else Host.parseOpaque text
  match cs.drop length with
  | [] => return (host, none, [])
  | _ :: port =>
    if host.isEmpty then throw .emptyHost
    let (port, rest) ← parsePort scheme port
    return (host, port, rest)

/-- an authority and what is left of the text; `more` tells that a query or fragment follows -/
def parseAuthority (scheme : List Char) (more : Bool) (cs : List Char) :
    Except Fault (Authority × List Char) := do
  let ends := endsAuthority (isSpecial scheme)
  let front := cs.takeWhile (!ends ·)
  let path := cs.dropWhile (!ends ·)
  let (user, password, place) ← match cutLast? '@' front with
    | none => pure ([], [], front)
    | some ([], place) =>
      if place.isEmpty && (more || !path.isEmpty) then throw .emptyHost
      pure ([], [], place)
    | some (info, place) =>
      let (user, password) := credentials info
      pure (user, password, place)
  let (host, port, rest) ← parseHostPort scheme place
  let authority : Authority := ⟨user, password, host, port⟩
  if host.isEmpty && authority.hasCredentials then throw .emptyHost
  return (authority, rest ++ path)

/-! ## the rest -/

/-- the path behind an authority -/
def pathBehind (scheme : List Char) (cs : List Char) : List Char :=
  let special := isSpecial scheme
  match cs with
  | [] => if special then ['/'] else []
  | c :: rest => parsePath special (if endsAuthority special c then rest else cs)

/-- what follows a slash, if the text starts with one -/
def afterSlash? (cs : List Char) : Option (List Char) :=
  match cs.dropWhile isBreak with
  | [] => none
  | c :: rest => if endsAuthority true c then some rest else none

/-- the host of a file URL, empty for this machine, and its path -/
def parseFilePlace (cs : List Char) : Except Fault (Host × List Char) := do
  let ends := endsAuthority true
  let front := withoutBreaks (cs.takeWhile (!ends ·))
  if isDrive front then return (.empty, (parseFilePath false cs).1)
  let named ← if front.isEmpty then pure .empty else Host.parse front
  let host := if named = .name "localhost".toList then .empty else named
  let (path, atDrive) := parseFilePath host.isEmpty ((cs.dropWhile (!ends ·)).drop 1)
  return (if atDrive then .empty else host, path)

/-- a file URL: two slashes announce a host; breaks are still in the text -/
def parseFile (cs : List Char) : Except Fault (Host × List Char) :=
  match afterSlash? cs with
  | none => .ok (.empty, (parseFilePath false cs).1)
  | some path =>
    match afterSlash? path with
    | none => .ok (.empty, (parseFilePath false path).1)
    | some place => parseFilePlace place

/-- authority and path of the text behind the scheme -/
def parseBody (scheme : List Char) (more : Bool) (text : List Char) :
    Except Fault (Option Authority × List Char) := do
  let cs := withoutBreaks text
  if isFile scheme then
    let (host, path) ← parseFile text
    return (some (.nobody host none), path)
  else if isSpecial scheme then
    let (authority, rest) ← parseAuthority scheme more (cs.dropWhile (endsAuthority true))
    return (some authority, pathBehind scheme rest)
  else match cs with
    | '/' :: '/' :: rest =>
      let (authority, rest) ← parseAuthority scheme more rest
      return (some authority, pathBehind scheme rest)
    | '/' :: rest => return (none, parsePath false rest)
    | _ => return (none, percentEncode controlSet cs)

/-! ## URLs -/

def parse (cs : List Char) : Except Fault Url :=
  match scheme? (trimmed cs) with
  | none => .error .noScheme
  | some (scheme, rest) => do
    let (rest, fragment) := cut '#' rest
    let (body, query) := cut '?' rest
    let (authority, path) ← parseBody scheme (query.isSome || fragment.isSome) body
    let set := if isSpecial scheme then specialQuerySet else querySet
    return {
      scheme := scheme
      authority := authority
      path := path
      query := query.map (percentEncode set ∘ withoutBreaks)
      fragment := fragment.map (percentEncode fragmentSet ∘ withoutBreaks) }

def ofText (s : String) : Except Fault Url := parse s.toList

end ServerConsole.Url
