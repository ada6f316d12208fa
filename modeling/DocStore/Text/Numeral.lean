namespace DocStore.Text

-- The most digits that a whole number may have where it is read or written as text.
def digitLimit : Nat := 4300

def isOverlong (n : Int) : Bool :=
  digitLimit < (Nat.toDigits 10 n.natAbs).length

-- What is said of a number that is too long to be written.
def overlongMessage : String :=
  "Exceeds the limit (" ++ digitLimit.repr ++ " digits) for integer string conversion; " ++
    "use sys.set_int_max_str_digits() to increase the limit"

end DocStore.Text
