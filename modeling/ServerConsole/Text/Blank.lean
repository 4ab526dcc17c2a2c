/-!
# Blank characters and trimming

A character is blank when it has the Unicode property White_Space (25 code points).

* `isBlank`   the property;
* `trim`      a text without its leading and trailing blanks;
* `isBlankText`  nothing but blanks, the empty text included.
-/

namespace ServerConsole.Text

/-! ## the property -/

def isBlank (c : Char) : Bool :=
  (0x9 ≤ c.val && c.val ≤ 0xd) || c.val == 0x20 || c.val == 0x85 || c.val == 0xa0
    || c.val == 0x1680 || (0x2000 ≤ c.val && c.val ≤ 0x200a) || c.val == 0x2028
    || c.val == 0x2029 || c.val == 0x202f || c.val == 0x205f || c.val == 0x3000

example : isBlank ' ' = true ∧ isBlank '\u3000' = true ∧ isBlank '\u200b' = false := by decide

/-! ## trimming -/

/-- drops the longest tail whose members all satisfy `p` -/
def dropTail (p : Char → Bool) (cs : List Char) : List Char :=
  (cs.reverse.dropWhile p).reverse

theorem dropTail_nil (p : Char → Bool) : dropTail p [] = [] := rfl

theorem dropTail_append_of_pos (p : Char → Bool) (cs : List Char) (c : Char) (h : p c = true) :
    dropTail p (cs ++ [c]) = dropTail p cs := by
  simp [dropTail, h]

theorem dropTail_append_of_neg (p : Char → Bool) (cs : List Char) (c : Char) (h : p c = false) :
    dropTail p (cs ++ [c]) = cs ++ [c] := by
  simp [dropTail, h]

def trimChars (cs : List Char) : List Char := dropTail isBlank (cs.dropWhile isBlank)

def trim (s : String) : String := String.ofList (trimChars s.toList)

def isBlankText (s : String) : Bool := s.toList.all isBlank

theorem toList_trim (s : String) : (trim s).toList = trimChars s.toList := by
  simp [trim]

end ServerConsole.Text
