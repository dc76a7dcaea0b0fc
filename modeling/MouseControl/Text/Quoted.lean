import MouseControl.Text.Printable

/-!
Quoted texts and byte strings, as they appear in messages. A quote stands on both sides: the
apostrophe, or the double quote when the content holds an apostrophe and no double quote. Inside,
the backslash, the chosen quote, tab, line feed and carriage return are escaped by a backslash,
printable code points stand for themselves, and the others are written by number.
-/

set_option autoImplicit false
set_option relaxedAutoImplicit false

namespace MouseControl

/-- The lower-case hexadecimal digits of a number, filled with zeros to a width. -/
def hexDigits (width n : Nat) : String :=
  let digits := Nat.toDigits 16 n
  String.ofList (List.replicate (width - digits.length) '0' ++ digits)

/-- The quote to put around some content. -/
def quoteFor (content : List CodePoint) : CodePoint :=
  if content.contains '\''.toNat && !content.contains '"'.toNat then '"'.toNat else '\''.toNat

/-- A code point that does not stand for itself, by number. -/
def numericEscape (c : CodePoint) : Text :=
  if c < 0x100 then "\\x" ++ hexDigits 2 c
  else if c < 0x10000 then "\\u" ++ hexDigits 4 c
  else "\\U" ++ hexDigits 8 c

/-- One code point inside quotes, where `stands` says which ones stand for themselves. -/
def escapeInside (stands : CodePoint → Bool) (quote c : CodePoint) : Text :=
  if c == '\\'.toNat then "\\\\"
  else if c == quote then ['\\'.toNat, quote]
  else if c == '\t'.toNat then "\\t"
  else if c == '\n'.toNat then "\\n"
  else if c == '\r'.toNat then "\\r"
  else if stands c then [c]
  else numericEscape c

/-- Content between quotes. -/
def quoteWith (stands : CodePoint → Bool) (content : List CodePoint) : Text :=
  let quote := quoteFor content
  quote :: content.flatMap (escapeInside stands quote) ++ [quote]

/-- A quoted text. -/
def Text.quoted (t : Text) : Text := quoteWith CodePoint.isPrintable t

/-- A quoted byte string, in which only the visible characters of ASCII and the space stand for
themselves. -/
def quotedBytes (bytes : List UInt8) : Text :=
  'b'.toNat :: quoteWith (fun c ↦ 0x20 ≤ c && c < 0x7F) (bytes.map UInt8.toNat)

end MouseControl
