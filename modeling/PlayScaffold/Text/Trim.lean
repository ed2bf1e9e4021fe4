import PlayScaffold.Text.CharClass

/-!
# Trimming

White space is cut off at the start or at both ends of a text.
-/

namespace PlayScaffold.Text

def trimStart (cs : List Char) : List Char := cs.dropWhile isWhiteSpace

def trim (cs : List Char) : List Char := (trimStart (trimStart cs).reverse).reverse

/-- Capital ASCII letters made small, all else kept. -/
def lowerAscii (cs : List Char) : List Char := cs.map Char.toLower

end PlayScaffold.Text
