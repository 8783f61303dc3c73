/-!
# UTF-8

Reading takes any octets: wherever no character can be completed, what was read of it becomes one
replacement character, and reading starts again with the octet that did not fit.
-/

namespace Barometer.Text.Utf8

/-- A character that has begun: how many octets are missing, the range of the next one, and the bits
so far. -/
structure Pending where
  missing : Nat
  low : Nat
  high : Nat
  bits : Nat
deriving DecidableEq, Repr

def replacement : Char := Char.ofNat 0xFFFD

/-- What the first octet of a longer character calls for; none for octets that begin no such
character. -/
def lead? (octet : Nat) : Option Pending :=
  if 0xC2 ≤ octet ∧ octet ≤ 0xDF then
    some { missing := 1, low := 0x80, high := 0xBF, bits := octet - 0xC0 }
  else if 0xE0 ≤ octet ∧ octet ≤ 0xEF then
    some {
      missing := 2
      low := if octet = 0xE0 then 0xA0 else 0x80
      high := if octet = 0xED then 0x9F else 0xBF
      bits := octet - 0xE0 }
  else if 0xF0 ≤ octet ∧ octet ≤ 0xF4 then
    some {
      missing := 3
      low := if octet = 0xF0 then 0x90 else 0x80
      high := if octet = 0xF4 then 0x8F else 0xBF
      bits := octet - 0xF0 }
  else none

/-- Reads an octet between two characters. -/
def start (octet : Nat) : List Char × Option Pending :=
  if octet < 0x80 then ([Char.ofNat octet], none)
  else match lead? octet with
    | some pending => ([], some pending)
    | none => ([replacement], none)

/-- Reads an octet. -/
def step (state : Option Pending) (octet : Nat) : List Char × Option Pending :=
  match state with
  | none => start octet
  | some p =>
    if p.low ≤ octet ∧ octet ≤ p.high then
      let bits := p.bits * 64 + (octet - 0x80)
      if p.missing ≤ 1 then ([Char.ofNat bits], none)
      else ([], some { missing := p.missing - 1, low := 0x80, high := 0xBF, bits })
    else
      let (chars, next) := start octet
      (replacement :: chars, next)

def decodeFrom (state : Option Pending) : List UInt8 → List Char
  | [] => if state.isSome then [replacement] else []
  | octet :: rest =>
    let (chars, next) := step state octet.toNat
    chars ++ decodeFrom next rest

/-- The text of a list of octets. -/
def decode (octets : List UInt8) : String := String.ofList (decodeFrom none octets)

/-- The octets of a text. -/
def encode (s : String) : List UInt8 := s.toUTF8.toList

end Barometer.Text.Utf8
