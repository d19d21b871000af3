import NetNode.Text.Printable

/-!
# Quoted text with backslash escapes

The program shows some names and paths between double quotes, the way a debugging printer
shows them. A quote, a backslash, the NUL character and the tab, carriage return and line feed
get a backslash escape; a character that extends the grapheme before it or that does not
print gets a `\u{hex}` escape (see `Text.Printable`); every other character stands for itself.

Paths are shown the same way; an apostrophe stands for itself in both.
-/

namespace NetNode.Text.Quote

/-- Lowercase hexadecimal digits of a number, without leading zeros. -/
def hexDigits (n : Nat) : List Char :=
  (Nat.toDigits 16 n)

/-- The escape `\u{hex}` of a code point. -/
def unicodeEscape (c : Char) : List Char :=
  ['\\', 'u', '{'] ++ hexDigits c.toNat ++ ['}']

/-- How one character is written inside double quotes. -/
def escapeChar (c : Char) : List Char :=
  if c = '\x00' then ['\\', '0']
  else if c = '\t' then ['\\', 't']
  else if c = '\r' then ['\\', 'r']
  else if c = '\n' then ['\\', 'n']
  else if c = '\\' then ['\\', '\\']
  else if c = '"' then ['\\', '"']
  else if graphemeExtend c || !printable c then unicodeEscape c
  else [c]

/-- A text between double quotes with its characters escaped. -/
def quote (s : String) : String :=
  String.ofList ('"' :: s.toList.flatMap escapeChar ++ ['"'])

end NetNode.Text.Quote
