import ServerConsole.Unicode.CharMap

/-!
# Emoji

* `canBeEmoji`     characters that a variation selector turns into an emoji;
* `isEmoji`        characters that are shown as emoji on their own;
* `canBeText`      emoji that a variation selector turns into text;
* `isEmojiModifier`, `takesModifier`  the skin tones and the emoji they belong to.
-/

namespace ServerConsole.Unicode

/-! ## tables -/

/-- characters that are text unless a selector follows -/
def emojiInText : CharSet := .ofText "
  23 2a 30-39 a9 ae 203c 2049 2122 2139 2194-2199 21a9-21aa 2328 23cf 23ed-23ef 23f1-23f2
  23f8-23fa 24c2 25aa-25ab 25b6 25c0 25fb-25fc 2600-2604 260e 2611 2618 261d 2620 2622-2623 2626
  262a 262e-262f 2638-263a 2640 2642 265f-2660 2663 2665-2666 2668 267b 267e 2692 2694-2697 2699
  269b-269c 26a0 26a7 26b0-26b1 26c8 26cf 26d1 26d3 26e9 26f0-26f1 26f4 26f7-26f9 2702 2708-2709
  270c-270d 270f 2712 2714 2716 271d 2721 2733-2734 2744 2747 2763-2764 27a1 2934-2935 2b05-2b07
  3030 303d 3297 3299 1f170-1f171 1f17e-1f17f 1f202 1f237 1f321 1f324-1f32c 1f336 1f37d
  1f396-1f397 1f399-1f39b 1f39e-1f39f 1f3cb-1f3ce 1f3d4-1f3df 1f3f3 1f3f5 1f3f7 1f43f 1f441
  1f4fd 1f549-1f54a 1f56f-1f570 1f573-1f579 1f587 1f58a-1f58d 1f590 1f5a5 1f5a8 1f5b1-1f5b2
  1f5bc 1f5c2-1f5c4 1f5d1-1f5d3 1f5dc-1f5de 1f5e1 1f5e3 1f5e8 1f5ef 1f5f3 1f5fa 1f6cb
  1f6cd-1f6cf 1f6e0-1f6e5 1f6e9 1f6f0 1f6f3"

/-- characters that are emoji unless a selector follows -/
def emojiOnTheirOwn : CharSet := .ofText "
  231a-231b 23e9-23ec 23f0 23f3 25fd-25fe 2614-2615 2648-2653 267f 2693 26a1 26aa-26ab 26bd-26be
  26c4-26c5 26ce 26d4 26ea 26f2-26f3 26f5 26fa 26fd 2705 270a-270b 2728 274c 274e 2753-2755 2757
  2795-2797 27b0 27bf 2b1b-2b1c 2b50 2b55 1f004 1f0cf 1f18e 1f191-1f19a 1f201 1f21a 1f22f
  1f232-1f236 1f238-1f23a 1f250-1f251 1f300-1f320 1f32d-1f335 1f337-1f37c 1f37e-1f393
  1f3a0-1f3ca 1f3cf-1f3d3 1f3e0-1f3f0 1f3f4 1f3f8-1f3fa 1f400-1f43e 1f440 1f442-1f4fc
  1f4ff-1f53d 1f54b-1f54e 1f550-1f567 1f57a 1f595-1f596 1f5a4 1f5fb-1f64f 1f680-1f6c5 1f6cc
  1f6d0-1f6d2 1f6d5-1f6d7 1f6dc-1f6df 1f6eb-1f6ec 1f6f4-1f6fc 1f7e0-1f7eb 1f7f0 1f90c-1f93a
  1f93c-1f945 1f947-1f9ff 1fa70-1fa7c 1fa80-1fa89 1fa8f-1fac6 1face-1fadc 1fadf-1fae9
  1faf0-1faf8"

/-- emoji that have a form as text -/
def emojiWithText : CharSet := .ofText "
  231a-231b 23e9-23ec 23f0 23f3 25fd-25fe 2614-2615 2648-2653 267f 2693 26a1 26aa-26ab 26bd-26be
  26c4-26c5 26ce 26d4 26ea 26f2-26f3 26f5 26fa 26fd 2705 270a-270b 2728 274c 274e 2753-2755 2757
  2795-2797 27b0 27bf 2b1b-2b1c 2b50 2b55 1f004 1f30d-1f30f 1f315 1f31c 1f378 1f393 1f3a7
  1f3ac-1f3ae 1f3c2 1f3c4 1f3c6 1f3ca 1f3e0 1f3ed 1f408 1f415 1f41f 1f426 1f442 1f446-1f449
  1f44d-1f44e 1f453 1f46a 1f47d 1f4a3 1f4b0 1f4b3 1f4bb 1f4bf 1f4cb 1f4da 1f4df 1f4e4-1f4e6
  1f4ea-1f4ed 1f4f7 1f4f9-1f4fb 1f508 1f50d 1f512-1f513 1f550-1f567 1f610 1f687 1f68d 1f691
  1f694 1f698 1f6ad 1f6b2 1f6b9-1f6ba 1f6bc"

/-- emoji that a skin tone colours -/
def modifierBases : CharSet := .ofText "
  261d 26f9 270a-270d 1f385 1f3c2-1f3c4 1f3c7 1f3ca-1f3cc 1f442-1f443 1f446-1f450 1f466-1f478
  1f47c 1f481-1f483 1f485-1f487 1f48f 1f491 1f4aa 1f574-1f575 1f57a 1f590 1f595-1f596
  1f645-1f647 1f64b-1f64f 1f6a3 1f6b4-1f6b6 1f6c0 1f6cc 1f90c 1f90f 1f918-1f91f 1f926
  1f930-1f939 1f93c-1f93e 1f977 1f9b5-1f9b6 1f9b8-1f9b9 1f9bb 1f9cd-1f9cf 1f9d1-1f9dd
  1fac3-1fac5 1faf0-1faf8"

/-! ## properties -/

def isEmoji (c : Char) : Bool := 0xff < c.val && emojiOnTheirOwn.contains c

def canBeEmoji (c : Char) : Bool := isEmoji c || emojiInText.contains c

def canBeText (c : Char) : Bool := 0xff < c.val && emojiWithText.contains c

def isEmojiModifier (c : Char) : Bool := 0x1f3fb ≤ c.val && c.val ≤ 0x1f3ff

def takesModifier (c : Char) : Bool := 0xff < c.val && modifierBases.contains c

end ServerConsole.Unicode
