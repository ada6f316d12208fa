namespace DocStore.Base64

def alphabet : List Char :=
  "ABCDEFGHIJKLMNOPQRSTUVWXYZabcdefghijklmnopqrstuvwxyz0123456789+/".toList

def char (value : Nat) : Char :=
  alphabet[value]?.getD '='

def group (a b c : UInt8) : List Char :=
  [char (a.toNat / 4), char (a.toNat % 4 * 16 + b.toNat / 16),
   char (b.toNat % 16 * 4 + c.toNat / 64), char (c.toNat % 64)]

def encode : List UInt8 → List Char
  | a :: b :: c :: rest => group a b c ++ encode rest
  | [a, b] => (group a b 0).take 3 ++ ['=']
  | [a] => (group a 0 0).take 2 ++ ['=', '=']
  | [] => []

end DocStore.Base64
