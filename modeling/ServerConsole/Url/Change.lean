import ServerConsole.Url.Form
import ServerConsole.Url.Parse

/-!
# Changing URLs

A part of a URL that is set is read as it would be in its place.

* `withScheme?`      another scheme of the same kind; a port that is its default is left out;
* `withPath`         another path behind the authority;
* `withoutFragment`  no fragment;
* `withPairs`        a query of form pairs, in place of the query there was.
-/

namespace ServerConsole.Url

open Text

/-! ## scheme -/

def hasHost (u : Url) : Bool := u.authority.any (!·.host.isEmpty)

/-- special schemes are exchanged among each other and need a host; with an authority no URL becomes
a file's -/
def acceptsScheme (u : Url) (scheme : List Char) : Bool :=
  isSpecial scheme == isSpecial u.scheme && !(isFile scheme && u.authority.isSome)
    && (u.hasHost || !isSpecial scheme)

/-- a port that is not the default of a scheme -/
def portBeside (scheme : List Char) (port : Option UInt16) : Option UInt16 :=
  if port = defaultPort? scheme then none else port

def withScheme? (u : Url) (scheme : List Char) : Option Url :=
  if u.acceptsScheme scheme then
    some { u with
      scheme := scheme
      authority := u.authority.map fun a => { a with port := portBeside scheme a.port } }
  else none

/-! ## path, query and fragment -/

def withPath (u : Url) (cs : List Char) : Url :=
  { u with path := pathBehind u.scheme (withoutBreaks cs) }

def withoutFragment (u : Url) : Url := { u with fragment := none }

def withPairs (u : Url) (pairs : List (List Char × List Char)) : Url :=
  { u with query := some (joinWith '&' (pairs.map fun (name, value) => formPair name value)) }

end ServerConsole.Url
