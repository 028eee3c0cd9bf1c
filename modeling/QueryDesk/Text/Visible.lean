import QueryDesk.Text.DecimalDigit
import QueryDesk.Text.Mark
import QueryDesk.Text.Reserved

/-! # Visible characters

Characters that stand for themselves where a text is shown between quotation marks, and the escapes
of the others. Hidden are control and format characters, separators other than the space, letters
that fill a place without a shape, private characters, joining marks and reserved code points.
-/

set_option autoImplicit false

namespace QueryDesk.Text

/-- The characters without a shape of their own: control and format characters (general categories
`Cc` and `Cf`), separators other than the space (`Zs`, `Zl` and `Zp`), private characters (`Co`) and
the Hangul fillers. -/
def shapelessRanges : List (Nat × Nat) :=
  [(0x0, 0x1F), (0x7F, 0xA0), (0xAD, 0xAD), (0x600, 0x605), (0x61C, 0x61C), (0x6DD, 0x6DD),
   (0x70F, 0x70F), (0x890, 0x891), (0x8E2, 0x8E2), (0x115F, 0x1160), (0x1680, 0x1680),
   (0x180E, 0x180E), (0x2000, 0x200F), (0x2028, 0x202F), (0x205F, 0x2064), (0x2066, 0x206F),
   (0x3000, 0x3000), (0x3164, 0x3164), (0xE000, 0xF8FF), (0xFEFF, 0xFEFF), (0xFFA0, 0xFFA0),
   (0xFFF9, 0xFFFB), (0x110BD, 0x110BD), (0x110CD, 0x110CD), (0x13430, 0x1343F), (0x1BCA0, 0x1BCA3),
   (0x1D173, 0x1D17A), (0xE0001, 0xE0001), (0xE0020, 0xE007F), (0xF0000, 0xFFFFD),
   (0x100000, 0x10FFFD)]

/-- **A character that is not shown as itself.** -/
def isHidden (c : Char) : Bool := inRanges shapelessRanges c || isMark c || isReserved c

/-- **A character as it is shown** between quotation marks. An apostrophe needs no escape there. -/
def shownChar (c : Char) : List Char :=
  match c with
  | '\x00' => ['\\', '0']
  | '\t' => ['\\', 't']
  | '\n' => ['\\', 'n']
  | '\r' => ['\\', 'r']
  | '"' => ['\\', '"']
  | '\\' => ['\\', '\\']
  | c =>
    if isHidden c then '\\' :: 'u' :: '\x7b' :: Nat.toDigits 16 c.toNat ++ ['\x7d'] else [c]

/-- A text between quotation marks. -/
def shownQuoted (s : String) : String :=
  String.ofList ('"' :: s.toList.flatMap shownChar ++ ['"'])

end QueryDesk.Text
