/-!
# Blank characters and trimming

`isBlank` is the Unicode property `White_Space`. It holds of the no-break space, the next-line
control and the ideographic space; it does not hold of the zero-width space, of the byte order
mark, or of the four information separators. Every place in the library that trims a text trims
these characters and no others.
-/

namespace RiskReport.Text

/-- The characters with the Unicode property `White_Space`. -/
def isBlank (c : Char) : Bool :=
  let n := c.toNat
  (0x09 ≤ n && n ≤ 0x0D) || n == 0x20 || n == 0x85 || n == 0xA0 || n == 0x1680 ||
    (0x2000 ≤ n && n ≤ 0x200A) || n == 0x2028 || n == 0x2029 || n == 0x202F || n == 0x205F ||
    n == 0x3000

/-- The characters from the first one that is not blank. -/
def trimStartChars (cs : List Char) : List Char :=
  cs.dropWhile isBlank

/-- The characters up to the last one that is not blank. -/
def trimEndChars (cs : List Char) : List Char :=
  (trimStartChars cs.reverse).reverse

/-- The characters between the first and the last one that are not blank. -/
def trimChars (cs : List Char) : List Char :=
  trimEndChars (trimStartChars cs)

/-- The text without the blanks at its two ends. -/
def trim (s : String) : String :=
  String.ofList (trimChars s.toList)

/-- A text is blank when nothing is left of it after trimming. -/
def isBlankText (s : String) : Bool :=
  s.toList.all isBlank

/-- The trimmed text, or nothing if it is blank. -/
def trimmed? (s : String) : Option String :=
  let t := trim s
  if t.isEmpty then none else some t

/-- The text as an option: nothing if it is empty. -/
def nonEmpty? (s : String) : Option String :=
  if s.isEmpty then none else some s

/-- The text without the slashes at its end. -/
def dropTrailingSlashes (s : String) : String :=
  String.ofList (s.toList.reverse.dropWhile (· == '/')).reverse

/-- The first `n` characters of a text. -/
def excerpt (n : Nat) (s : String) : String :=
  String.ofList (s.toList.take n)

/-- The text with the letters `A` to `Z` in lower case and every other character as it is. -/
def lowerAscii (s : String) : String :=
  s.map Char.toLower

/-- The characters after `opening`, if the text begins with it. -/
def dropPrefixChars? : (opening cs : List Char) → Option (List Char)
  | [], cs => some cs
  | _ :: _, [] => none
  | o :: os, c :: cs => if o == c then dropPrefixChars? os cs else none

/-- Whether `part` stands somewhere in the text. -/
def containsChars (part : List Char) : List Char → Bool
  | [] => part.isEmpty
  | c :: cs => (dropPrefixChars? part (c :: cs)).isSome || containsChars part cs

end RiskReport.Text
