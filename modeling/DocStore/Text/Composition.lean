import DocStore.Text.CompositionTable

namespace DocStore.Text

-- The class that orders marks; what is no mark has class zero.
def markClass (c : Char) : Nat :=
  let run? := markClassRuns.find? fun (first, last, _) => first ≤ c.toNat && c.toNat ≤ last
  (run?.map fun (_, _, markClass) => markClass).getD 0

def syllables : Nat := 0xAC00
def leadingLetters : Nat := 0x1100
def vowels : Nat := 0x1161
def vowelCount : Nat := 21

-- One place before the first of the trailing letters; the place stands for no letter.
def trailingLetters : Nat := 0x11A7
def trailingCount : Nat := 28

def isSyllable (code : Nat) : Bool :=
  syllables ≤ code && code < syllables + 19 * vowelCount * trailingCount

def syllableParts? (code : Nat) : Option (Nat × Nat) :=
  let place := code - syllables
  if !isSyllable code then none
  else if place % trailingCount = 0 then
    some (leadingLetters + place / trailingCount / vowelCount,
      vowels + place / trailingCount % vowelCount)
  else some (code - place % trailingCount, trailingLetters + place % trailingCount)

def composeSyllable? (first second : Nat) : Option Nat :=
  if leadingLetters ≤ first ∧ first < leadingLetters + 19 ∧
      vowels ≤ second ∧ second < vowels + vowelCount then
    some (syllables +
      ((first - leadingLetters) * vowelCount + (second - vowels)) * trailingCount)
  else if isSyllable first ∧ (first - syllables) % trailingCount = 0 ∧
      trailingLetters < second ∧ second < trailingLetters + trailingCount then
    some (first + (second - trailingLetters))
  else none

def parts? (c : Char) : Option (Char × Char) :=
  (syllableParts? c.toNat <|> compositions.lookup c.toNat).map fun (first, second) =>
    (.ofNat first, .ofNat second)

def compose? (first second : Char) : Option Char :=
  let entry? := compositions.find? fun (_, x, y) => x == first.toNat && y == second.toNat
  (composeSyllable? first.toNat second.toNat <|> entry?.map (·.1)).map Char.ofNat

def compositionDepth : Nat := 4

-- The characters that a character is composed of, down to the given depth.
def decomposeChar : (depth : Nat) → Char → List Char
  | 0, c => [c]
  | depth + 1, c =>
    match parts? c with
    | none => [c]
    | some (first, second) => decomposeChar depth first ++ decomposeChar depth second

-- Puts a character in front of a text. A mark moves behind the marks of lower classes.
def insertMark (c : Char) : List Char → List Char
  | [] => [c]
  | d :: rest =>
    if markClass d ≠ 0 ∧ markClass d < markClass c then d :: insertMark c rest else c :: d :: rest

def orderMarks (s : List Char) : List Char :=
  s.foldr insertMark []

-- Lets a character take in what follows it. A mark is out of reach if a mark of its own class, or a
-- later one, stands in between.
def composeFrom (first : Char) (marks : List Char) : List Char → List Char
  | [] => first :: marks
  | c :: rest =>
    let inReach := marks.getLast?.all (markClass · < markClass c)
    match if inReach then compose? first c else none with
    | some composed => composeFrom composed marks rest
    | none =>
      if markClass c = 0 then first :: marks ++ composeFrom c [] rest
      else composeFrom first (marks ++ [c]) rest

-- Marks at the start of a text have nothing to join.
def composeMarks : List Char → List Char
  | [] => []
  | c :: rest => if markClass c = 0 then composeFrom c [] rest else c :: composeMarks rest

def composed (s : List Char) : List Char :=
  composeMarks (orderMarks (s.flatMap (decomposeChar compositionDepth)))

def isComposed (s : List Char) : Bool :=
  composed s == s

example : composed "u\u0308ber".toList = "über".toList := by decide +kernel
example : composed "\u1112\u1161\u11AB".toList = "한".toList := by decide +kernel
example : composed "é\u0327".toList = "ȩ\u0301".toList := by decide +kernel

end DocStore.Text
