import ServerConsole.Toml.Syntax

/-!
# TOML documents

`Toml.parse` reads a document into its tables: assignments go into the table of the header above them,
those above all headers into the document itself.
-/

namespace ServerConsole.Toml

/-- a document under way: all entries, and the header that assignments come under -/
structure Draft where
  entries : Entries
  header : Key

namespace Draft

def empty : Draft := ⟨[], []⟩

def take? (d : Draft) : Statement → Option Draft
  | .assignment key v =>
    (descend false (fun _ => assign? key v) d.header .header d.entries).map ({ d with entries := · })
  | .header key => (declare? key d.entries).map (⟨·, key⟩)
  | .item key => (append? key d.entries).map (⟨·, key⟩)

end Draft

def parse (cs : List Char) : Option Entries :=
  (statements? cs).bind fun all => (all.foldlM Draft.take? Draft.empty).map (·.entries)

end ServerConsole.Toml
