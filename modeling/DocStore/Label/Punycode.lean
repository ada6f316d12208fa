namespace DocStore.Label.Punycode

def digit (n : Nat) : Char :=
  if n < 26 then .ofNat (0x61 + n) else .ofNat (0x30 + (n - 26))

def digitValue? (c : Char) : Option Nat :=
  if 'a' ≤ c ∧ c ≤ 'z' then some (c.toNat - 0x61)
  else if '0' ≤ c ∧ c ≤ '9' then some (c.toNat - 0x30 + 26)
  else none

-- The threshold of the digit at a position, which counts in steps of 36.
def threshold (position bias : Nat) : Nat :=
  if position ≤ bias then 1 else if bias + 26 ≤ position then 26 else position - bias

theorem threshold_pos (position bias : Nat) : 0 < threshold position bias := by
  grind [threshold]

-- The digits of a distance, lowest first; a digit below its threshold is the last one.
def digits (bias position distance : Nat) : List Char :=
  let t := threshold position bias
  if distance < t then [digit distance]
  else
    digit (t + (distance - t) % (36 - t)) ::
      digits bias (position + 36) ((distance - t) / (36 - t))
termination_by distance
decreasing_by
  have := threshold_pos position bias
  have := Nat.div_le_self (distance - threshold position bias) (36 - threshold position bias)
  omega

-- The number of digits that the next distance is expected to have, and what is left of it.
def scale (distance position : Nat) : Nat × Nat :=
  if 455 < distance then scale (distance / 35) (position + 36) else (distance, position)
termination_by distance

-- The bias after a distance, given how many characters are written; the first distance counts less.
def adapt (distance written : Nat) (isFirst : Bool) : Nat :=
  let scaled := if isFirst then distance / 700 else distance / 2
  let (rest, position) := scale (scaled + scaled / written) 0
  position + 36 * rest / (rest + 38)

structure Progress where
  distance : Nat := 0
  bias     : Nat := 72
  written  : Nat
  digits   : List Char := []

-- Passes a character of the text on the search for the characters with a code.
def Progress.pass (plain code : Nat) (p : Progress) (c : Char) : Progress :=
  if c.toNat < code then { p with distance := p.distance + 1 }
  else if c.toNat = code then
    { distance := 0
      bias     := adapt p.distance (p.written + 1) (p.written == plain)
      written  := p.written + 1
      digits   := p.digits ++ Punycode.digits p.bias 36 p.distance }
  else p

-- Writes the characters with the codes, which ascend; `next` is the first code not searched yet.
def encodeCodes (s : List Char) (plain next : Nat) (p : Progress) : List Nat → List Char
  | [] => p.digits
  | code :: codes =>
    let p := { p with distance := p.distance + (code - next) * (p.written + 1) }
    let p := s.foldl (Progress.pass plain code) p
    encodeCodes s plain (code + 1) { p with distance := p.distance + 1 } codes

def isPlain (c : Char) : Bool :=
  c.toNat < 0x80

def encode (s : List Char) : List Char :=
  let plain := s.filter isPlain
  let codes := ((s.filter (!isPlain ·)).map Char.toNat).eraseDups.mergeSort
  let rest := encodeCodes s plain.length 0x80 { written := plain.length } codes
  if plain.isEmpty then rest else plain ++ '-' :: rest

-- The distance that starts at the head of a row of digits, and the digits after it.
def distance? (bias position : Nat) : List Char → Option (Nat × List Char)
  | [] => none
  | c :: rest =>
    let t := threshold position bias
    match digitValue? c with
    | none => none
    | some value =>
      if value < t then some (value, rest)
      else
        (distance? bias (position + 36) rest).map fun (more, rest) =>
          (value + (36 - t) * more, rest)

theorem length_lt_of_distance? {bias position n : Nat} {s rest : List Char}
    (h : distance? bias position s = some (n, rest)) : rest.length < s.length := by
  induction s generalizing position n with
  | nil => simp [distance?] at h
  | cons c s ih =>
    simp only [distance?] at h
    split at h
    · simp at h
    · split at h
      · simp only [Option.some.injEq, Prod.mk.injEq] at h
        simp [h.2]
      · simp only [Option.map_eq_some_iff, Prod.mk.injEq, Prod.exists] at h
        obtain ⟨more, rest', hd, _, rfl⟩ := h
        exact Nat.lt_succ_of_lt (ih hd)

-- Puts characters into a text, one for each distance. The characters ascend from a code on, and the
-- next one may not stand before a place.
def decodeFrom (bias code place : Nat) (isFirst : Bool) (text : List Char) :
    List Char → Option (List Char)
  | [] => some text
  | c :: digits =>
    match h : distance? bias 36 (c :: digits) with
    | none => none
    | some (distance, rest) =>
      let written := text.length + 1
      let code := code + (place + distance) / written
      let place := (place + distance) % written
      if code.isValidChar then
        decodeFrom (adapt distance written isFirst) code (place + 1) false
          (text.insertIdx place (.ofNat code)) rest
      else none
termination_by digits => digits.length
decreasing_by
  exact length_lt_of_distance? h

-- The plain characters end before the last hyphen.
def decode? (s : List Char) : Option (List Char) :=
  let digits := (s.reverse.takeWhile (· != '-')).reverse
  decodeFrom 72 0x80 0 true ((s.reverse.dropWhile (· != '-')).drop 1).reverse digits

example : encode "bücher".toList = "bcher-kva".toList := by decide +kernel
example : decode? "bcher-kva".toList = some "bücher".toList := by decide +kernel

end DocStore.Label.Punycode
