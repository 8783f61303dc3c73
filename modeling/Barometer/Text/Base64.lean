/-!
# Base 64

Three octets are written as four digits of six bits.  A last group of one or two octets is filled up
with zero bits and with signs of equality.
-/

namespace Barometer.Text.Base64

def alphabet : List Char :=
  "ABCDEFGHIJKLMNOPQRSTUVWXYZabcdefghijklmnopqrstuvwxyz0123456789+/".toList

/-- The digit of a number below 64. -/
def digit (n : Nat) : Char := alphabet.getD n '='

/-- The digits of octets, `count` of each four counted from the left. -/
def group (a b c count : Nat) : List Char :=
  let n := (a * 256 + b) * 256 + c
  let digits := [digit (n / 262144), digit (n / 4096 % 64), digit (n / 64 % 64), digit (n % 64)]
  digits.take count ++ List.replicate (4 - count) '='

def digits : List UInt8 → List Char
  | a :: b :: c :: rest => group a.toNat b.toNat c.toNat 4 ++ digits rest
  | [a, b] => group a.toNat b.toNat 0 3
  | [a] => group a.toNat 0 0 2
  | [] => []

def encode (octets : List UInt8) : String := String.ofList (digits octets)

end Barometer.Text.Base64
