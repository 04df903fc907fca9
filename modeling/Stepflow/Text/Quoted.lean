import Stepflow.Text.Printable
import Stepflow.Text.Surrogate

/-!
# Quoted text

The quoted form of a text stands between apostrophes, or between quotation marks
when the text holds an apostrophe and no quotation mark. The quote that is used and
the backslash are escaped by a backslash, tab, line feed and carriage return by a
letter, and every other character that is not printable by its code point in two,
four or eight hexadecimal digits. No lone surrogate is printable.
-/

namespace Stepflow.Text

/-- The hexadecimal digits of `n`, at least `width` of them. -/
def hexDigits (width n : Nat) : List Char :=
  let digits := Nat.toDigits 16 n
  List.replicate (width - digits.length) '0' ++ digits

/-- One code point inside the quote `quote`. -/
def quoteCodePoint (quote : Char) (n : Nat) : List Char :=
  let c := Char.ofNat n
  if c == quote || c == '\\' then ['\\', c]
  else if c == '\t' then ['\\', 't']
  else if c == '\n' then ['\\', 'n']
  else if c == '\r' then ['\\', 'r']
  else if !isSurrogate n && isPrintable c then [c]
  else if n < 0x100 then '\\' :: 'x' :: hexDigits 2 n
  else if n < 0x10000 then '\\' :: 'u' :: hexDigits 4 n
  else '\\' :: 'U' :: hexDigits 8 n

def quoteFor (s : List Char) : Char :=
  if s.contains '\'' && !s.contains '"' then '"' else '\''

def quoted (s : String) : String :=
  let quote := quoteFor s.toList
  String.ofList (quote :: (codePoints s.toList).flatMap (quoteCodePoint quote) ++ [quote])

end Stepflow.Text
