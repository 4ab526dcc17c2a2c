import ServerConsole.Text.Cluster
import ServerConsole.Unicode.Emoji

/-!
# Terminal width

How many cells of a terminal a cluster takes. A character by itself takes none when it combines with
another or is not shown, two when it is wide, and one else, control characters included; a cluster
takes the sum, less what its characters save by standing together.

* `charWidth`     the width of a character by itself;
* `Follower`      what stands behind a character, as far as it changes its width;
* `clusterWidth`  the width of a cluster, summed from its end.
-/

namespace ServerConsole.Text

open Unicode

/-! ## tables -/

/-- East Asian characters and emoji of two cells -/
def wideChars : CharSet := .ofText "
  1100-115f 231a-231b 2329-232a 23e9-23ec 23f0 23f3 25fd-25fe 2614-2615 2630-2637 2648-2653 267f
  268a-268f 2693 26a1 26aa-26ab 26bd-26be 26c4-26c5 26ce 26d4 26ea 26f2-26f3 26f5 26fa 26fd 2705
  270a-270b 2728 274c 274e 2753-2755 2757 2795-2797 27b0 27bf 2b1b-2b1c 2b50 2b55 2e80-2e99
  2e9b-2ef3 2f00-2fd5 2ff0-303e 3041-3096 3099-30ff 3105-312f 3131-318e 3190-31e5 31ef-321e
  3220-3247 3250-a48c a490-a4c6 a960-a97c ac00-d7a3 f900-faff fe10-fe19 fe30-fe52 fe54-fe66
  fe68-fe6b ff01-ff60 ffe0-ffe6 16fe0-16fe4 16ff0-16ff1 17000-187f7 18800-18cd5 18cff-18d08
  1aff0-1aff3 1aff5-1affb 1affd-1affe 1b000-1b122 1b132 1b150-1b152 1b155 1b164-1b167
  1b170-1b2fb 1d300-1d356 1d360-1d376 1f004 1f0cf 1f18e 1f191-1f19a 1f200-1f202 1f210-1f23b
  1f240-1f248 1f250-1f251 1f260-1f265 1f300-1f320 1f32d-1f335 1f337-1f37c 1f37e-1f393
  1f3a0-1f3ca 1f3cf-1f3d3 1f3e0-1f3f0 1f3f4 1f3f8-1f43e 1f440 1f442-1f4fc 1f4ff-1f53d
  1f54b-1f54e 1f550-1f567 1f57a 1f595-1f596 1f5a4 1f5fb-1f64f 1f680-1f6c5 1f6cc 1f6d0-1f6d2
  1f6d5-1f6d7 1f6dc-1f6df 1f6eb-1f6ec 1f6f4-1f6fc 1f7e0-1f7eb 1f7f0 1f90c-1f93a 1f93c-1f945
  1f947-1f9ff 1fa70-1fa7c 1fa80-1fa89 1fa8f-1fac6 1face-1fadc 1fadf-1fae9 1faf0-1faf8
  20000-2fffd 30000-3fffd"

/-- characters that are not shown -/
def ignorables : CharSet := .ofText "
  ad 34f 61c 115f-1160 17b4-17b5 180b-180f 200b-200f 202a-202e 2060-206f 3164 fe00-fe0f feff
  ffa0 fff0-fff8 1bca0-1bca3 1d173-1d17a e0000-e0fff"

/-- signs without a cell of their own that are neither marks nor hidden -/
def thinSigns : CharSet := .ofText "
  605 70f 890-891 8e2 d4e a8fa 111c2-111c3 113d1 1193f 11941 11a84-11a89 11d46 11f02"

/-! ## single characters -/

def isKoreanTail (n : Nat) : Bool := (0x1160 ≤ n && n ≤ 0x11ff) || (0xd7b0 ≤ n && n ≤ 0xd7fb)

/-- whether a character combines with another or is not shown; the joiner of Tifinagh is shown, and
so is the filler in front of a Korean syllable -/
def isThin (c : Char) : Bool :=
  c != '\u2d7f' && c != '\u115f'
    && ((breakClass c = .extend && !isEmojiModifier c) || ignorables.contains c
      || isKoreanTail c.toNat || thinSigns.contains c)

def charWidth (c : Char) : Nat :=
  if c.val < 0xa1 then 1
  else if c == '\u17d8' then 3
  else if isThin c then 0
  else if c == '\u17a4' || wideChars.contains c then 2
  else 1

/-! ## followers -/

/-- what stands behind a character -/
inductive Follower
  | nothing
  | lineFeed
  /-- a selector for the form as emoji, and one for the form as text -/
  | emojiSelector
  | textSelector
  | modifier
  | emoji
  /-- a joiner and an emoji; in front of the joiner a keycap, and in front of that a selector -/
  | tiedEmoji (keycap selector : Bool)
  /-- the end of a flag's name, a joiner and an emoji -/
  | flagName (letters : List Char)
  /-- a Khmer letter that can stand below another without a cell -/
  | khmerLetter
  /-- two vowels of Kirat Rai that other vowels merge with -/
  | kiratE
  | kiratAi
  deriving DecidableEq

def khmerLetters : CharSet := .ofText "
  1780-1782 1784-1787 1789-178c 178e-1793 1795-1798 179b-179d 17a0 17a2 17a7 17ab-17ac 17af"

/-- a character that nothing behind it changes -/
def follower (c : Char) : Follower :=
  if isEmojiModifier c then .modifier
  else if isEmoji c then .emoji
  else if khmerLetters.contains c then .khmerLetter
  else if c.toNat == 0x16d67 then .kiratE
  else if c.toNat == 0x16d68 then .kiratAi
  else .nothing

def hasEmojiSelector : Follower → Bool
  | .emojiSelector | .tiedEmoji _ true => true
  | _ => false

def withEmojiSelector : Follower → Follower
  | .tiedEmoji keycap _ => .tiedEmoji keycap true
  | _ => .emojiSelector

/-- what is left when the character in front of a selector has no other form -/
def withoutSelector : Follower → Follower
  | .tiedEmoji keycap _ => .tiedEmoji keycap false
  | .emojiSelector | .textSelector => .nothing
  | f => f

/-! ## flags -/

/-- the letter or digit of a tag -/
def tag? (c : Char) : Option Char :=
  let n := c.toNat - 0xe0000
  if (0xe0030 ≤ c.val && c.val ≤ 0xe0039) || (0xe0061 ≤ c.val && c.val ≤ 0xe007a) then
    some (Char.ofNat n)
  else none

/-- a region of two letters or three digits and one to four letters or digits for its part -/
def namesFlag (letters : List Char) : Bool :=
  let part (region : Nat) : Bool := region < letters.length && letters.length ≤ region + 4
  ((letters.take 2).all Char.isAlpha && part 2) || ((letters.take 3).all Char.isDigit && part 3)

/-! ## clusters -/

/-- marks that are not shown and come between no two letters -/
def hiddenMarks : CharSet := .ofText "34f 17b4-17b5 180b-180d 180f fe00-fe0f e0100-e01ef"

/-- the width of a character in front of another and what it is to the one in front of it, when the
two stand together in a way of their own -/
def joined? (c : Char) (f : Follower) : Option (Int × Follower) :=
  match f with
  | .lineFeed => if c == '\r' then some (0, .nothing) else none
  | .modifier =>
    if takesModifier c then some (0, .emoji)
    else if c == joiner then some (0, .tiedEmoji false false)
    else none
  | .emoji => if c == joiner then some (0, .tiedEmoji false false) else none
  | .tiedEmoji false _ =>
    if c == '\u20e3' then some (0, .tiedEmoji true false)
    else if isEmojiModifier c then some (0, .modifier)
    else if c.toNat == 0xe007f then some (0, .flagName [])
    else if isEmoji c then some (0, .emoji)
    else none
  | .flagName letters =>
    match tag? c with
    | some letter => some (0, .flagName (letter :: letters))
    | none => if c.toNat == 0x1f3f4 && namesFlag letters then some (0, .emoji) else none
  | .khmerLetter =>
    if c == '\u17d2' then some (-1, .nothing)
    else if hiddenMarks.contains c then some (0, f)
    else none
  | .kiratE =>
    if c.toNat == 0x16d63 || c.toNat == 0x16d69 then some (0, .nothing)
    else if c.toNat == 0x16d67 then some (0, .kiratAi)
    else if c.toNat == 0x16d68 then some (1, .kiratE)
    else if hiddenMarks.contains c then some (0, f)
    else none
  | .kiratAi =>
    if c.toNat == 0x16d63 then some (0, .nothing)
    else if hiddenMarks.contains c then some (0, f)
    else none
  | _ => none

/-- a character in front of what no selector belongs to -/
def plainWidth (c : Char) (f : Follower) : Int × Follower :=
  match joined? c f with
  | some r => r
  | none =>
    if c == '\n' then (1, .lineFeed)
    else if c == '\ufe0f' then (0, withEmojiSelector f)
    else if c == '\ufe0e' then (0, .textSelector)
    else (charWidth c, follower c)

/-- the width of a character in front of another, and what it is to the one in front of it -/
def widthBefore (c : Char) (f : Follower) : Int × Follower :=
  if hasEmojiSelector f && canBeEmoji c then (if f = .emojiSelector then 2 else 0, .emoji)
  else if f = .textSelector && canBeText c then (1, .nothing)
  else plainWidth c (withoutSelector f)

def clusterWidth (cluster : List Char) : Nat :=
  (cluster.foldr (fun c (sum, f) => let (width, f) := widthBefore c f; (sum + width, f))
    ((0 : Int), Follower.nothing)).1.toNat

end ServerConsole.Text
