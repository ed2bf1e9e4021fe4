import PlayScaffold.Text.ClassTable

/-!
# Character classes

Whether a character is a letter or digit, lower case, upper case, white space, cased, ignored when
case is decided, or printable.  ASCII is decided by the rules of `Char`; all other characters by
the tables.
-/

namespace PlayScaffold.Text

def isAscii (c : Char) : Bool := c.toNat < 128

/-- A letter, a digit or another numeral of any script. -/
def isAlphanumeric (c : Char) : Bool :=
  if isAscii c then c.isAlphanum else Span.anyContains alphanumericSpans c.toNat

/-- A character with the property `Lowercase`. -/
def isLowercase (c : Char) : Bool :=
  if isAscii c then c.isLower else Span.anyContains lowercaseSpans c.toNat

/-- A character with the property `Uppercase`. -/
def isUppercase (c : Char) : Bool :=
  if isAscii c then c.isUpper else Span.anyContains uppercaseSpans c.toNat

/-- White space: the blank, the ASCII controls from tab to carriage return, and the spaces and
separators of other scripts. -/
def isWhiteSpace (c : Char) : Bool :=
  if isAscii c then c == ' ' || ('\t' ≤ c && c ≤ '\r')
  else Span.anyContains whiteSpaceSpans c.toNat

/-- A character that takes part in casing. -/
def isCased (c : Char) : Bool :=
  if isAscii c then c.isAlpha else Span.anyContains casedSpans c.toNat

/-- A character that is passed over when the case of its neighbours is decided. -/
def isCaseIgnorable (c : Char) : Bool :=
  if isAscii c then c == '\'' || c == '.' || c == ':' || c == '^' || c.toNat == 0x60
  else Span.anyContains caseIgnorableSpans c.toNat

/-- A character that has a shape of its own on paper; the blank counts. -/
def isPrintable (c : Char) : Bool :=
  if isAscii c then ' ' ≤ c && c ≤ '~' else !Span.anyContains unprintableSpans c.toNat

end PlayScaffold.Text
