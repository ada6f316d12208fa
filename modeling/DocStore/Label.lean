import DocStore.Label.Punycode
import DocStore.Label.Table
import DocStore.Text.Case
import DocStore.Text.Composition

namespace DocStore.Label

def isAscii (label : List Char) : Bool :=
  label.all (·.toNat < 0x80)

def isUnspacedMark (c : Char) : Bool :=
  Text.inRanges markRanges c.toNat

def isMark (c : Char) : Bool :=
  isUnspacedMark c || Text.inRanges spacingMarkRanges c.toNat

def isRightToLeft (c : Char) : Bool :=
  Text.inRanges rightToLeftRanges c.toNat

def isArabicNumber (c : Char) : Bool :=
  Text.inRanges arabicNumberRanges c.toNat

def isEuropeanNumber (c : Char) : Bool :=
  Text.inRanges europeanNumberRanges c.toNat

def isLeftToRight (c : Char) : Bool :=
  !(isUnspacedMark c || isRightToLeft c || isArabicNumber c || isEuropeanNumber c ||
    Text.inRanges neutralRanges c.toNat)

-- Whether joining passes over a character. One mark stops it.
def joinsThrough (c : Char) : Bool :=
  (isUnspacedMark c && c.toNat != 0x1171E) || Text.inRanges joinsThroughRanges c.toNat

def joinsForward (c : Char) : Bool :=
  Text.inRanges joinsBothRanges c.toNat || Text.inRanges joinsLeftRanges c.toNat

def joinsBackward (c : Char) : Bool :=
  Text.inRanges joinsBothRanges c.toNat || Text.inRanges joinsRightRanges c.toNat

-- The class of the marks that silence the vowel of a letter.
def viramaClass : Nat := 9

def followsVirama (before : List Char) : Bool :=
  before.head?.any (Text.markClass · == viramaClass)

-- Whether cursive letters on both sides would join but for the character between them.
def partsJoin (before after : List Char) : Bool :=
  (before.find? (!joinsThrough ·)).any joinsForward &&
    (after.find? (!joinsThrough ·)).any joinsBackward

-- Whether a character may stand between the text before it, nearest character first, and the text
-- after it. Some characters need certain neighbours, or company in the label.
def mayStand (label before : List Char) (c : Char) (after : List Char) : Bool :=
  let code := c.toNat
  if Text.inRanges validRanges code then true
  else if c = '\u200C' then followsVirama before || partsJoin before after
  else if c = '\u200D' then followsVirama before
  else if c = '·' then before.head? == some 'l' && after.head? == some 'l'
  else if c = '\u0375' then after.head?.any fun d => Text.inRanges greekRanges d.toNat
  else if c = '\u05F3' ∨ c = '\u05F4' then
    before.head?.any fun d => Text.inRanges hebrewRanges d.toNat
  else if c = '\u30FB' then label.any fun d => Text.inRanges japaneseRanges d.toNat
  else if 0x660 ≤ code ∧ code ≤ 0x669 then
    label.all fun d => !(0x6F0 ≤ d.toNat && d.toNat ≤ 0x6F9)
  else if 0x6F0 ≤ code ∧ code ≤ 0x6F9 then
    label.all fun d => !(0x660 ≤ d.toNat && d.toNat ≤ 0x669)
  else false

def allMayStand (label before : List Char) : List Char → Bool
  | [] => true
  | c :: rest => mayStand label before c rest && allMayStand label (c :: before) rest

-- A label with characters from right to left starts with a letter of such a script, ends with a
-- letter or a digit of it, and has no letters from left to right and no digits of both kinds.
def runsOneWay (label : List Char) : Bool :=
  if label.any fun c => isRightToLeft c || isArabicNumber c then
    label.head?.any isRightToLeft && !label.any isLeftToRight &&
      ((label.reverse.find? (!isUnspacedMark ·)).any fun c =>
        isRightToLeft c || isEuropeanNumber c || isArabicNumber c) &&
      !(label.any isArabicNumber && label.any isEuropeanNumber)
  else true

-- Hyphens stand inside a label, and not both in the third and the fourth place.
def hyphensAreInside (label : List Char) : Bool :=
  label.head? != some '-' && label.getLast? != some '-' &&
    !(label[2]? == some '-' && label[3]? == some '-')

def isValid (label : List Char) : Bool :=
  !label.isEmpty && Text.isComposed label && hyphensAreInside label &&
    !label.head?.any isMark && allMayStand label [] label && runsOneWay label

def greatestLength : Nat := 63

def meaning? (label : List Char) : Option (List Char) :=
  match label with
  | 'x' :: 'n' :: '-' :: '-' :: encoded =>
    if encoded.isEmpty ∨ encoded.getLast? = some '-' then none else Punycode.decode? encoded
  | _ => some label

-- The form of a label with its letters in lower case, if it is valid. A label that is in that form
-- already has to stand for a valid one.
def encodeLower? (label : List Char) : Option (List Char) :=
  let encoded := if isAscii label then label else "xn--".toList ++ Punycode.encode label
  let text? := if isAscii label then meaning? label else some label
  if text?.any isValid ∧ encoded.length ≤ greatestLength then some encoded else none

-- Labels of ASCII characters are taken as they are.
def encode? (label : List Char) : Option (List Char) :=
  if isAscii label then some (label.map Char.toLower) else encodeLower? (Text.lower label)

example : encode? "Bücher".toList = some "xn--bcher-kva".toList := by decide +kernel
example : encode? "a☃".toList = none := by decide +kernel

end DocStore.Label
