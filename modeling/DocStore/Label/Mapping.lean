import DocStore.Label.MappingTable
import DocStore.Text.Case
import DocStore.Text.Composition

namespace DocStore.Label

def entryIn? {α : Type} (table : List (Nat × List α)) (code : Nat) : Option α :=
  table.findSome? fun (first, entries) => if first ≤ code then entries[code - first]? else none

-- The capital letters of the Cherokee stand for themselves.
def standsForItself (c : Char) : Bool :=
  0x13A0 ≤ c.toNat && c.toNat ≤ 0x13F5

def mapChar (c : Char) : List Char :=
  if Text.inRanges ignoredRanges c.toNat then []
  else
    match entryIn? mappedTextRows c.toNat with
    | some codes => codes.map Char.ofNat
    | none =>
      match Text.imageIn? mappedRuns c <|> (entryIn? mappedRows c.toNat).map Char.ofNat with
      | some d => [d]
      | none => if standsForItself c then [c] else Text.lowerChar [] c []

-- A name with each of its characters replaced by what it stands for. The dots of all scripts stand
-- for the plain one.
def mapped (name : List Char) : List Char :=
  Text.composed (name.flatMap mapChar)

example : mapped "Ａ①。ﬁ".toList = "a1.fi".toList := by decide +kernel

end DocStore.Label
