import ServerConsole.Text.Hex

/-!
# Styled text

A `Span` is a piece of text with colours and weight. `Color.ofText?` reads the colour hints of
console lines: a hash sign and three channels of two characters each, where a channel is two
hexadecimal digits, or a plus sign and one.
-/

namespace ServerConsole.Screen

inductive Color
  | gray
  | darkGray
  | red
  | green
  | yellow
  | magenta
  | cyan
  | white
  | rgb (red green blue : UInt8)
  deriving DecidableEq

def Color.name : Color → String
  | gray => "gray"
  | darkGray => "darkgray"
  | red => "red"
  | green => "green"
  | yellow => "yellow"
  | magenta => "magenta"
  | cyan => "cyan"
  | white => "white"
  | rgb r g b => String.ofList ('#' :: (Text.hexPair r ++ Text.hexPair g ++ Text.hexPair b))

/-- one channel of a colour hint -/
def channel? (a b : Char) : Option UInt8 :=
  match Text.hexValue? a, Text.hexValue? b with
  | some x, some y => some (16 * x + y).toUInt8
  | none, some y => if a = '+' then some y.toUInt8 else none
  | _, none => none

def Color.ofChars? : List Char → Option Color
  | ['#', a, b, c, d, e, f] => do pure (.rgb (← channel? a b) (← channel? c d) (← channel? e f))
  | _ => none

def Color.ofText? (s : String) : Option Color := ofChars? s.toList

structure Span where
  text : String
  fg : Option Color := none
  bg : Option Color := none
  bold : Bool := false
  deriving DecidableEq

def Span.colored (text : String) (color : Color) : Span := { text := text, fg := some color }

end ServerConsole.Screen
