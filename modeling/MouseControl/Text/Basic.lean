/-!
Texts as sequences of code points. A `String` holds scalar values only, while a configuration
document can spell an unpaired surrogate and a message may have to repeat it. So names, messages
and whatever comes from outside are lists of code points, and a string stands for the text of its
characters.
-/

set_option autoImplicit false
set_option relaxedAutoImplicit false

namespace MouseControl

/-- A Unicode code point, surrogates included. -/
abbrev CodePoint := Nat

/-- A text as the sequence of its code points. -/
abbrev Text := List CodePoint

namespace CodePoint

/-- The first half of a surrogate pair. -/
def isHighSurrogate (c : CodePoint) : Bool := 0xD800 ≤ c && c ≤ 0xDBFF

/-- The second half of a surrogate pair. -/
def isLowSurrogate (c : CodePoint) : Bool := 0xDC00 ≤ c && c ≤ 0xDFFF

/-- The code point that a surrogate pair stands for. -/
def ofPair (high low : CodePoint) : CodePoint := 0x10000 + (high - 0xD800) * 0x400 + (low - 0xDC00)

end CodePoint

namespace Text

/-- The code points of a string. -/
def ofString (s : String) : Text := s.toList.map Char.toNat

instance : Coe String Text := ⟨ofString⟩

/-- Texts put together with a separator between each two. -/
def join (separator : String) (texts : List Text) : Text :=
  List.intercalate (ofString separator) texts

/-- The string with these code points, each surrogate replaced by U+FFFD. -/
def toString (t : Text) : String :=
  String.ofList (t.map fun c ↦ if Nat.isValidChar c then Char.ofNat c else '\uFFFD')

end Text

end MouseControl
