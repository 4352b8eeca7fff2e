import SearchSql.Text.Printable

/-!
# Quoted literals

A text or a string of octets in quotes, with escapes for what cannot be shown. The
quote is a single one, unless only single quotes occur in the content.

## Main definitions

* `Text.literal` — a text in quotes.
* `Text.octetLiteral` — a string of octets in quotes.
-/

namespace SearchSql.Text

/-- The lower-case hexadecimal digits of a number, at least `width` of them. -/
def hex (width n : Nat) : List Char :=
  let digits := Nat.toDigits 16 n
  List.replicate (width - digits.length) '0' ++ digits

/-- The quote for some content. -/
def quoteFor (cs : List Char) : Char :=
  if cs.contains '\'' && !cs.contains '"' then '"' else '\''

/-- One character of a literal in the given quotes. -/
def literalChar (quote c : Char) : List Char :=
  if c = '\\' ∨ c = quote then ['\\', c]
  else if c = '\n' then ['\\', 'n']
  else if c = '\r' then ['\\', 'r']
  else if c = '\t' then ['\\', 't']
  else if isPrintable c then [c]
  else if c.toNat < 0x100 then '\\' :: 'x' :: hex 2 c.toNat
  else if c.toNat < 0x10000 then '\\' :: 'u' :: hex 4 c.toNat
  else '\\' :: 'U' :: hex 8 c.toNat

/-- A text in quotes. -/
def literal (s : String) : String :=
  let quote := quoteFor s.toList
  String.ofList (quote :: s.toList.flatMap (literalChar quote) ++ [quote])

/-- One octet of a literal in the given quotes; only ASCII is shown. -/
def literalOctet (quote : Char) (octet : UInt8) : List Char :=
  if octet.toNat < 0x80 then literalChar quote (Char.ofNat octet.toNat)
  else '\\' :: 'x' :: hex 2 octet.toNat

/-- The quote for a string of octets. -/
def quoteForOctets (octets : List UInt8) : Char :=
  quoteFor (octets.map fun b => Char.ofNat b.toNat)

/-- Octets between quotes, with the letter that marks them. The quote `escaped` is escaped
within. -/
def markedOctets (quote escaped : Char) (octets : List UInt8) : String :=
  String.ofList ('b' :: quote :: octets.flatMap (literalOctet escaped) ++ [quote])

/-- A string of octets in quotes. -/
def octetLiteral (octets : List UInt8) : String :=
  let quote := quoteForOctets octets
  markedOctets quote quote octets

/-- A string of octets that may change, in quotes. Single quotes are escaped between quotes
of either kind. -/
def bufferLiteral (octets : List UInt8) : String :=
  "bytearray(" ++ markedOctets (quoteForOctets octets) '\'' octets ++ ")"

end SearchSql.Text
