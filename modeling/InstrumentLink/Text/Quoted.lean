import InstrumentLink.Text.Printable

/-!
# Quoted text

Free text inside a message is put between double quotes.  The quote, the
backslash and the usual controls have escapes of their own; every other
character that does not show itself is written by its code point in lower-case
hexadecimal.
-/

namespace InstrumentLink.Text

/-- How one character is written between quotes. -/
def escape (c : Char) : List Char :=
  if c = '\"' then ['\\', '\"']
  else if c = '\\' then ['\\', '\\']
  else if c = '\n' then ['\\', 'n']
  else if c = '\r' then ['\\', 'r']
  else if c = '\t' then ['\\', 't']
  else if c = '\x00' then ['\\', '0']
  else if isPrintable c then [c]
  else '\\' :: 'u' :: '\x7b' :: (Nat.toDigits 16 c.toNat ++ ['\x7d'])

def quote (text : String) : String :=
  String.ofList ('\"' :: (text.toList.flatMap escape ++ ['\"']))

/-- A bracketed list of quoted texts. -/
def quoteList (texts : List String) : String :=
  "[" ++ ", ".intercalate (texts.map quote) ++ "]"

end InstrumentLink.Text
