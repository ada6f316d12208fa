import DocStore.Text.Hex

namespace DocStore.Utf8

-- The bytes of a character, one to four of them as its code point grows.
def encodeChar (c : Char) : List UInt8 :=
  let code := c.toNat
  if code < 0x80 then
    [.ofNat code]
  else if code < 0x800 then
    [.ofNat (0xC0 + code / 0x40), .ofNat (0x80 + code % 0x40)]
  else if code < 0x10000 then
    [.ofNat (0xE0 + code / 0x1000), .ofNat (0x80 + code / 0x40 % 0x40), .ofNat (0x80 + code % 0x40)]
  else
    [.ofNat (0xF0 + code / 0x40000), .ofNat (0x80 + code / 0x1000 % 0x40),
     .ofNat (0x80 + code / 0x40 % 0x40), .ofNat (0x80 + code % 0x40)]

def encode (s : List Char) : List UInt8 :=
  s.flatMap encodeChar

@[simp] theorem encode_nil : encode [] = [] :=
  rfl

@[simp] theorem encode_cons (c : Char) (s : List Char) :
    encode (c :: s) = encodeChar c ++ encode s :=
  rfl

@[simp] theorem encode_append (s t : List Char) : encode (s ++ t) = encode s ++ encode t :=
  List.flatMap_append

inductive Reason where
  | startByte
  | continuationByte
  | endOfData
deriving DecidableEq, Repr

def Reason.message : Reason → String
  | .startByte => "invalid start byte"
  | .continuationByte => "invalid continuation byte"
  | .endOfData => "unexpected end of data"

inductive Piece where
  | char (c : Char)
  | bad (bytes : List UInt8) (reason : Reason)
deriving DecidableEq, Repr

-- A sequence that has begun: its bytes so far, the code point they spell so far, how many bytes are
-- due, and the bounds of the next one. Only the byte after the first has narrower bounds than the
-- others; they shut out overlong forms, surrogates and code points past the last.
structure Pending where
  seen : List UInt8
  code : Nat
  due  : Nat
  low  : Nat
  high : Nat
deriving DecidableEq, Repr

-- The sequence that a byte above the ASCII range begins, if it begins any.
def Pending.start? (b : UInt8) : Option Pending :=
  let n := b.toNat
  if 0xC2 ≤ n ∧ n ≤ 0xDF then
    some ⟨[b], n - 0xC0, 1, 0x80, 0xBF⟩
  else if 0xE0 ≤ n ∧ n ≤ 0xEF then
    some ⟨[b], n - 0xE0, 2, if n = 0xE0 then 0xA0 else 0x80, if n = 0xED then 0x9F else 0xBF⟩
  else if 0xF0 ≤ n ∧ n ≤ 0xF4 then
    some ⟨[b], n - 0xF0, 3, if n = 0xF0 then 0x90 else 0x80, if n = 0xF4 then 0x8F else 0xBF⟩
  else
    none

def Pending.admits (p : Pending) (b : UInt8) : Bool :=
  p.low ≤ b.toNat && b.toNat ≤ p.high

def Pending.push (p : Pending) (b : UInt8) : Pending :=
  ⟨p.seen ++ [b], 0x40 * p.code + (b.toNat - 0x80), p.due - 1, 0x80, 0xBF⟩

-- The pieces that start with a byte after a finished piece; `next` gives the ones after it.
def startPiece (b : UInt8) (next : Option Pending → List Piece) : List Piece :=
  if b.toNat < 0x80 then .char (Char.ofNat b.toNat) :: next none
  else
    match Pending.start? b with
    | some p => next (some p)
    | none   => .bad [b] .startByte :: next none

-- The pieces of some bytes that come after an unfinished sequence.
def piecesAfter : List UInt8 → Option Pending → List Piece
  | [], none => []
  | [], some p => [.bad p.seen .endOfData]
  | b :: bs, none => startPiece b (piecesAfter bs)
  | b :: bs, some p =>
    if p.admits b then
      if p.due = 1 then .char (Char.ofNat (p.push b).code) :: piecesAfter bs none
      else piecesAfter bs (some (p.push b))
    else .bad p.seen .continuationByte :: startPiece b (piecesAfter bs)

def pieces (bytes : List UInt8) : List Piece :=
  piecesAfter bytes none

structure Error where
  position : Nat
  bytes    : List UInt8
  reason   : Reason
deriving DecidableEq, Repr

def Error.message (e : Error) : String :=
  let place := match e.bytes with
    | [b] =>
      "byte 0x" ++ String.ofList (Text.Hex.fixed 2 b.toNat) ++ " in position " ++ e.position.repr
    | bs =>
      "bytes in position " ++ e.position.repr ++ "-" ++ (e.position + bs.length - 1).repr
  "'utf-8' codec can't decode " ++ place ++ ": " ++ e.reason.message

def joinStrict (position : Nat) : List Piece → Except Error (List Char)
  | [] => .ok []
  | .char c :: rest => (joinStrict (position + (encodeChar c).length) rest).map (c :: ·)
  | .bad bytes reason :: _ => .error ⟨position, bytes, reason⟩

-- The characters that bytes encode, or the first bad sequence among them.
def decode (bytes : List UInt8) : Except Error (List Char) :=
  joinStrict 0 (pieces bytes)

def replacement : Char := '\uFFFD'

-- The characters that bytes encode, each bad sequence replaced by one character.
def decodeLossy (bytes : List UInt8) : List Char :=
  (pieces bytes).map fun
    | .char c  => c
    | .bad _ _ => replacement

end DocStore.Utf8
