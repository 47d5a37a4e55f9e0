import StreamPlan.Text.CodeRanges
import StreamPlan.Text.GraphemeExtend
import StreamPlan.Text.Mark
import StreamPlan.Text.Unprintable

/-! Text in double quotes for journals: every character that would not show as itself is
escaped. -/

set_option autoImplicit false

namespace StreamPlan.Text

/-- The Unicode property `Default_Ignorable_Code_Point`: nothing is drawn for them, although
some, the fillers of Hangul, are letters. -/
def ignorableRanges : CodeRanges :=
  [(0xAD, 0xAD), (0x34F, 0x34F), (0x61C, 0x61C), (0x115F, 0x1160), (0x17B4, 0x17B5),
   (0x180B, 0x180F), (0x200B, 0x200F), (0x202A, 0x202E), (0x2060, 0x206F), (0x3164, 0x3164),
   (0xFE00, 0xFE0F), (0xFEFF, 0xFEFF), (0xFFA0, 0xFFA0), (0xFFF0, 0xFFF8), (0x1BCA0, 0x1BCA3),
   (0x1D173, 0x1D17A), (0xE0000, 0xE0FFF)]

/-- A mark that attaches to the character before it. The halfwidth voicing signs of katakana
attach as well, but are letters and show on their own. -/
def isAttachedMark (c : Char) : Bool :=
  graphemeExtendRanges.contains c.toNat && markRanges.contains c.toNat

/-- Characters without a glyph of their own, and marks that would attach to the one before. -/
def needsCode (c : Char) : Bool :=
  isAttachedMark c || ignorableRanges.contains c.toNat || unprintableRanges.contains c.toNat

def quotedChar (c : Char) : List Char :=
  if c = '"' then ['\\', '"']
  else if c = '\\' then ['\\', '\\']
  else if c = '\n' then ['\\', 'n']
  else if c = '\r' then ['\\', 'r']
  else if c = '\t' then ['\\', 't']
  else if c = '\x00' then ['\\', '0']
  else if needsCode c then '\\' :: 'u' :: '\x7b' :: (Nat.toDigits 16 c.toNat ++ ['\x7d'])
  else [c]

def quoted (text : String) : String :=
  String.ofList ('"' :: (text.toList.flatMap quotedChar ++ ['"']))

end StreamPlan.Text
