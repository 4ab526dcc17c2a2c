/-!
# Control characters

`isControl` is the Unicode general category Cc: the C0 block, DEL and the C1 block.
-/

namespace ServerConsole.Text

def isControl (c : Char) : Bool := c.val < 0x20 || (0x7f ≤ c.val && c.val ≤ 0x9f)

example : isControl '\t' = true ∧ isControl '\u0085' = true ∧ isControl ' ' = false := by decide

end ServerConsole.Text
