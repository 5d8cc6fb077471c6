/-!
# Quoted text in targets

- `doubleQuoted`: text between double quotes, with escapes, as Python and JavaScript read it;
- `sqlText`, `sqlName`: text between single quotes and names between double quotes, in which the quote is written twice.
-/

namespace ComputedFields

/-- A hexadecimal digit in lower case. -/
def hexDigit (n : Nat) : Char := if n < 10 then Char.ofNat ('0'.toNat + n) else Char.ofNat ('a'.toNat + (n - 10))

/-- A character between double quotes. Control characters have letters of their own or are numbered. -/
def escapeChar (c : Char) : List Char :=
  if c = '"' then ['\\', '"']
  else if c = '\\' then ['\\', '\\']
  else if c = '\x08' then ['\\', 'b']
  else if c = '\x0c' then ['\\', 'f']
  else if c = '\n' then ['\\', 'n']
  else if c = '\r' then ['\\', 'r']
  else if c = '\t' then ['\\', 't']
  else if c.toNat < 0x20 then ['\\', 'u', '0', '0', hexDigit (c.toNat / 16), hexDigit (c.toNat % 16)]
  else [c]

/-- Text between double quotes. -/
def doubleQuoted (s : String) : String := String.ofList ('"' :: s.toList.flatMap escapeChar ++ ['"'])

/-- A character written twice if it is the quote. -/
def twice (quote c : Char) : List Char := if c = quote then [c, c] else [c]

/-- Text between quotes that are doubled inside it. -/
def doublingQuotes (quote : Char) (s : String) : String :=
  String.ofList (quote :: s.toList.flatMap (twice quote) ++ [quote])

/-- A text in SQL. -/
def sqlText (s : String) : String := doublingQuotes '\'' s

/-- A name in SQL. -/
def sqlName (s : String) : String := doublingQuotes '"' s

end ComputedFields
