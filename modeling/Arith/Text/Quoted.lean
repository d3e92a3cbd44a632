import Arith.Text.Combining
import Arith.Text.Ignorable
import Arith.Text.Unprintable

/-!
# Quoted text

Text as a diagnostic quotes it: between double quotes, on one line, and with
every character that could not be read off the page replaced by an escape.

Main results:

- `escape`: what stands for one character inside the quotes.
- `quote`: a whole text between its quotes.
-/

namespace Arith.Text

/-- A character written by its code point: `u` and the lower-case hexadecimal
digits in braces, without leading zeros, after a backslash. -/
def codePointEscape (c : Char) : List Char :=
  '\\' :: 'u' :: '\x7b' :: Nat.toDigits 16 c.toNat ++ ['\x7d']

/-- Whether a character could not be read off the page as it is: it combines
with the one before it, may be ignored, or cannot be printed. -/
def isHidden (c : Char) : Bool :=
  isCombining c || isIgnorable c || isUnprintable c

/-- What stands for a character in quoted text.  Quote, backslash, line feed,
carriage return, tab and NUL have two-character escapes, other characters that
could not be read off the page are written by code point, and the rest, the
single quote among them, stand for themselves. -/
def escape : Char → List Char
  | '"' => ['\\', '"']
  | '\\' => ['\\', '\\']
  | '\n' => ['\\', 'n']
  | '\r' => ['\\', 'r']
  | '\t' => ['\\', 't']
  | '\x00' => ['\\', '0']
  | c => if isHidden c then codePointEscape c else [c]

/-- A text between double quotes, each of its characters escaped. -/
def quote (text : String) : String :=
  "\"" ++ String.ofList (text.toList.flatMap escape) ++ "\""

end Arith.Text
