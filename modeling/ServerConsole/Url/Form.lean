import ServerConsole.Text.Pieces
import ServerConsole.Url.Percent

/-!
# Form encoding of queries

The `application/x-www-form-urlencoded` format: pairs of a name and a value, joined by `&`, name and
value by `=`.

* `formEncode`  letters, digits and `* - . _` stay, a space becomes a plus sign, the rest is escaped;
* `formPair`    one pair as it is written;
* `formPairs`   all pairs of a query, as they are read.
-/

namespace ServerConsole.Url

open Text

/-! ## writing -/

def isFormPlain (c : Char) : Bool :=
  c.isAlphanum || ['*', '-', '.', '_'].contains c

def formChar (c : Char) : List Char :=
  if c == ' ' then ['+'] else encodeChar (fun c => !isFormPlain c) c

def formEncode (cs : List Char) : List Char := cs.flatMap formChar

def formPair (name value : List Char) : List Char := formEncode name ++ '=' :: formEncode value

/-! ## reading -/

/-- plus signs are spaces, escapes are undone, and what is no UTF-8 is replaced -/
def formDecode (cs : List Char) : List Char :=
  decodeLossy (percentDecode (encode (cs.map fun c => if c == '+' then ' ' else c)))

def formPairOf (cs : List Char) : List Char × List Char :=
  (formDecode (cs.takeWhile (· != '=')), formDecode ((cs.dropWhile (· != '=')).drop 1))

/-- empty pieces are skipped -/
def formPairs (query : List Char) : List (List Char × List Char) :=
  ((splitOn '&' query).filter (!·.isEmpty)).map formPairOf

end ServerConsole.Url
