import ServerConsole.Text.Decimal
import ServerConsole.Url.Host

/-!
# URLs

A URL in parts, each as it is written: the scheme in lower case, the rest escaped.

* `Scheme`      the special schemes, whose URLs have a host and a path of segments, and the others;
* `Authority`   user, password, host and port; a port that is the default of the scheme is left out;
* `Url.chars`   the written form;
* `Url.port?`   the port in effect.
-/

namespace ServerConsole

/-! ## parts -/

namespace Url

structure Authority where
  user : List Char
  password : List Char
  host : Host
  port : Option UInt16
  deriving DecidableEq

def specialSchemes : List (List Char × Option UInt16) := [
  ("http".toList, some 80), ("https".toList, some 443), ("ws".toList, some 80),
  ("wss".toList, some 443), ("ftp".toList, some 21), ("file".toList, none)]

def isSpecial (scheme : List Char) : Bool := specialSchemes.any (·.1 == scheme)

def isFile (scheme : List Char) : Bool := scheme == "file".toList

def defaultPort? (scheme : List Char) : Option UInt16 :=
  (specialSchemes.find? (·.1 == scheme)).bind (·.2)

namespace Authority

def nobody (host : Host) (port : Option UInt16) : Authority := ⟨[], [], host, port⟩

def hasCredentials (a : Authority) : Bool := !a.user.isEmpty || !a.password.isEmpty

def chars (a : Authority) : List Char :=
  let password := if a.password.isEmpty then [] else ':' :: a.password
  let credentials := if a.hasCredentials then a.user ++ password ++ ['@'] else []
  let port := a.port.elim [] fun p => ':' :: Text.digits p.toNat
  credentials ++ a.host.chars ++ port

end Authority

end Url

structure Url where
  scheme : List Char
  authority : Option Url.Authority
  path : List Char
  query : Option (List Char)
  fragment : Option (List Char)
  deriving DecidableEq

/-! ## written form -/

namespace Url

/-- the path, guarded where its start could be taken for an authority -/
def pathChars (u : Url) : List Char :=
  match u.authority, u.path with
  | none, '/' :: '/' :: _ => '/' :: '.' :: u.path
  | _, _ => u.path

def chars (u : Url) : List Char :=
  u.scheme ++ ':' :: u.authority.elim [] (fun a => '/' :: '/' :: a.chars) ++ u.pathChars
    ++ u.query.elim [] ('?' :: ·) ++ u.fragment.elim [] ('#' :: ·)

def text (u : Url) : String := String.ofList u.chars

/-- the port written, else the default of the scheme -/
def port? (u : Url) : Option UInt16 :=
  (u.authority.bind (·.port)).or (defaultPort? u.scheme)

end Url

end ServerConsole
