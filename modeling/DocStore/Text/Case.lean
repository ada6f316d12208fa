import DocStore.Text.CaseTable
import DocStore.Text.Ranges

namespace DocStore.Text

def imageIn? (table : List (Nat × Nat × Nat × Nat)) (c : Char) : Option Char :=
  let code := c.toNat
  let run? := table.find? fun (first, last, step, _) =>
    first ≤ code && code ≤ last && (code - first) % step == 0
  run?.map fun (first, _, _, image) => Char.ofNat (image + (code - first))

def upperChar (c : Char) : List Char :=
  match upperExpansions.lookup c.toNat with
  | some codes => codes.map Char.ofNat
  | none => [(imageIn? upperRuns c).getD c]

def upper (s : List Char) : List Char :=
  s.flatMap upperChar

def isCased (c : Char) : Bool :=
  inRanges casedRanges c.toNat

def isCaseIgnorable (c : Char) : Bool :=
  inRanges caseIgnorableRanges c.toNat

-- Whether the nearest character that counts is a cased one.
def nextIsCased (s : List Char) : Bool :=
  (s.find? (!isCaseIgnorable ·)).any isCased

-- A capital sigma that ends a word has a form of its own; `before` is the text before it, nearest
-- character first.
def lowerSigma (before after : List Char) : Char :=
  if nextIsCased before ∧ ¬nextIsCased after then 'ς' else 'σ'

-- The dotted capital I keeps its dot as a mark.
def lowerChar (before : List Char) (c : Char) (after : List Char) : List Char :=
  if c = 'Σ' then [lowerSigma before after]
  else if c = 'İ' then ['i', '\u0307']
  else [(imageIn? lowerRuns c).getD c]

def lowerAfter (before : List Char) : List Char → List Char
  | [] => []
  | c :: rest => lowerChar before c rest ++ lowerAfter (c :: before) rest

def lower (s : List Char) : List Char :=
  lowerAfter [] s

example : upper "straße".toList = "STRASSE".toList := by decide +kernel
example : lower "ΟΔΟΣ ΣΟΥ".toList = "οδος σου".toList := by decide +kernel

end DocStore.Text
