import RiskReport.Network.DomainTable
import RiskReport.Network.Punycode
import RiskReport.Text.Printable
import RiskReport.Text.Utf8

/-!
# Domain names

A domain name may have characters of any script. Before it is used, its characters are brought into
one form (`plain?`): letters of ASCII into lower case, variants of ASCII characters into these, and
characters that say nothing into nothing. What is then left must be fit for an address, label by
label: no label begins with a mark, a joiner stands only where it joins, and if any character of the
name is written from right to left, the direction of each label must be clear (`isDirected`).
-/

namespace RiskReport.Network.Domain

open Text

/-! ## Characters -/

/-- The characters of ASCII that no name has. -/
def isForbidden (c : Char) : Bool :=
  c.toNat ≤ 0x20 || c.toNat == 0x7F || "%#/:<>?@[\\]^|".toList.contains c

/-- The joiner and the non-joiner, which have no width. -/
def joiner : Char := '\u200D'

@[inherit_doc joiner]
def nonJoiner : Char := '\u200C'

/-- Whether a character is a mark. -/
def isMark (c : Char) : Bool :=
  inRanges nonspacingRanges c.toNat || inRanges spacingRanges c.toNat

/-- What stands in ASCII for a character, if something does. -/
def plainForm? (c : Char) : Option (List Char) :=
  plainForms.toList.findSome? fun (start, forms) =>
    if start ≤ c.toNat then (forms.splitOn " ")[c.toNat - start]?.map String.toList else none

/-- Whether a character beyond ASCII may stand in a name as it is. -/
def isAllowed (c : Char) : Bool :=
  c == joiner || c == nonJoiner ||
    ((isPrintable c || isMark c) && !inRanges refusedRanges c.toNat)

/-- The form of a character in a name, if it may stand in one. -/
def plain? (c : Char) : Option (List Char) :=
  if c.toNat < 0x80 then some [c.toLower]
  else if inRanges silentRanges c.toNat then some []
  else
    match plainForm? c with
    | some cs => some cs
    | none => if isAllowed c then some [c] else none

/-! ## Directions -/

/-- How a character takes part in the direction of a text. -/
inductive Direction where
  | rightward
  | leftward
  | arabicDigit
  | digit
  | neutral
  /-- The character goes with the one before it. -/
  | mark
  deriving DecidableEq, Repr, Inhabited

/-- The direction of a character. -/
def direction (c : Char) : Direction :=
  let n := c.toNat
  if n < 0x80 then
    if c.isAlpha then .rightward else if c.isDigit then .digit else .neutral
  else if inRanges leftwardRanges n then .leftward
  else if inRanges arabicDigitRanges n then .arabicDigit
  else if inRanges digitRanges n then .digit
  else if inRanges nonspacingRanges n then .mark
  else if c == joiner || c == nonJoiner || inRanges neutralRanges n then .neutral
  else .rightward

/-- Whether a name is written from right to left, at least in part. -/
def hasLeftward (cs : List Char) : Bool :=
  cs.any fun c => direction c == .leftward || direction c == .arabicDigit

/-- Whether the direction of a label is clear: it begins with a letter, has no letters of the other
direction, and ends with a letter or a digit. A label from right to left has digits of one kind. -/
def isDirected (label : List Char) : Bool :=
  let ds := label.map direction
  let last := (ds.reverse.dropWhile (· == .mark)).head?
  match ds with
  | [] => true
  | .leftward :: _ =>
    !ds.contains .rightward && !(ds.contains .digit && ds.contains .arabicDigit) &&
      (last == some .leftward || last == some .digit || last == some .arabicDigit)
  | .rightward :: _ =>
    !ds.contains .leftward && !ds.contains .arabicDigit &&
      (last == some .rightward || last == some .digit)
  | _ => false

/-! ## Joiners -/

/-- Whether a letter of Arabic joins the letter after it. -/
def joinsNext (c : Char) : Bool :=
  let n := c.toNat
  (n == 0x620 || n == 0x626 || n == 0x628 || (0x62A ≤ n && n ≤ 0x62E) ||
    (0x633 ≤ n && n ≤ 0x63F) || (0x641 ≤ n && n ≤ 0x647) || n == 0x649 || n == 0x64A ||
    n == 0x66E || n == 0x66F || (0x678 ≤ n && n ≤ 0x687) || (0x69A ≤ n && n ≤ 0x6BF) ||
    n == 0x6C1 || n == 0x6C2 || n == 0x6CC || n == 0x6CE || n == 0x6D0 || n == 0x6D1 ||
    (0x6FA ≤ n && n ≤ 0x6FC) || n == 0x6FF)

/-- Whether a letter of Arabic joins the letter before it. -/
def joinsPrevious (c : Char) : Bool :=
  let n := c.toNat
  joinsNext c || (0x622 ≤ n && n ≤ 0x625) || n == 0x627 || n == 0x629 ||
    (0x62F ≤ n && n ≤ 0x632) || n == 0x648 || (0x671 ≤ n && n ≤ 0x673) ||
    (0x675 ≤ n && n ≤ 0x677) || (0x688 ≤ n && n ≤ 0x699) || n == 0x6C0 ||
    (0x6C3 ≤ n && n ≤ 0x6CB) || n == 0x6CD || n == 0x6CF || n == 0x6D2 || n == 0x6D3 ||
    n == 0x6D5 || n == 0x6EE || n == 0x6EF

/-- Whether each joiner of a label stands where it joins: after a mark that joins consonants, or,
for the non-joiner, between letters that would join each other. `before` has the characters before
the label's rest, the nearest one first. -/
def joinersFit (before : List Char) : List Char → Bool
  | [] => true
  | c :: cs =>
    let afterConsonant := (before.head?.map fun b => inRanges joiningRanges b.toNat).getD false
    let skipMarks (cs : List Char) := cs.dropWhile fun x => inRanges nonspacingRanges x.toNat
    let between :=
      ((skipMarks before).head?.map joinsNext).getD false &&
        ((skipMarks cs).head?.map joinsPrevious).getD false
    let fits :=
      if c == joiner then afterConsonant
      else if c == nonJoiner then afterConsonant || between
      else true
    fits && joinersFit (c :: before) cs

/-! ## Names -/

/-- Whether a label is fit for an address, its direction aside. -/
def isFit (label : List Char) : Bool :=
  !(label.head?.map isMark).getD false && joinersFit [] label

/-- A label with its characters, of which those beyond ASCII may have been written in ASCII. -/
def label? (label : List Char) : Option (List Char) :=
  match label with
  | 'x' :: 'n' :: '-' :: '-' :: rest => do
    let cs ← Punycode.decode? rest
    if cs.any (128 ≤ ·.toNat) && cs.all fun c => plain? c == some [c] then some cs else none
  | _ => some label

/-- Read some bytes as the name of a domain. -/
def parse? (bytes : List UInt8) : Option String := do
  let text ← (decode bytes).toOption
  let forms ← text.toList.mapM plain?
  let cs := forms.flatten
  if cs.any isForbidden then none
  else
    let labels ← (cs.splitOn '.').mapM label?
    if labels.all isFit && (!labels.any hasLeftward || labels.all isDirected) then
      some (String.ofList cs)
    else none

end RiskReport.Network.Domain
