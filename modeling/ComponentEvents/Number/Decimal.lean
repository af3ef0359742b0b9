/-
This file writes doubles in decimal and reads decimal numerals.
-/

import ComponentEvents.Number.Shortest

namespace ComponentEvents

/-- These are the choices that a decimal notation leaves open. -/
structure DecimalNotation where
  leastPositional : Int
  endOfPositional : Int
  exponentMark : String
  leastExponentWidth : Nat
  nan : String
  infinity : String

namespace DecimalNotation

/-- Exponents from -4 to 15 are written positionally and always with a point; other exponents have
a sign and at least two digits. -/
def standard : DecimalNotation where
  leastPositional := -4
  endOfPositional := 16
  exponentMark := "e"
  leastExponentWidth := 2
  nan := "nan"
  infinity := "inf"

def zeros (count : Nat) : List Char := List.replicate count '0'

/-- The digits are written out with a point and at least one digit on either side of it. -/
def positional (digits : List Char) (exponent : Int) : List Char :=
  let whole : Int := digits.length + exponent
  if 0 ≤ exponent then digits ++ zeros exponent.toNat ++ ['.', '0']
  else if 0 < whole then digits.take whole.toNat ++ '.' :: digits.drop whole.toNat
  else '0' :: '.' :: zeros (-whole).toNat ++ digits

/-- The point follows the first digit and is left out where no digit follows it. -/
def scientific (style : DecimalNotation) (digits : List Char) (magnitude : Int) : List Char :=
  let lead := match digits with
    | first :: second :: rest => first :: '.' :: second :: rest
    | short => short
  let size := Nat.toDigits 10 magnitude.natAbs
  let padded := zeros (style.leastExponentWidth - size.length) ++ size
  lead ++ style.exponentMark.toList ++ (if magnitude < 0 then '-' else '+') :: padded

def writeDigits (style : DecimalNotation) (value : DecimalValue) : List Char :=
  let digits := Nat.toDigits 10 value.digits
  let magnitude := value.exponent + digits.length - 1
  if style.leastPositional ≤ magnitude ∧ magnitude < style.endOfPositional then
    positional digits value.exponent
  else scientific style digits magnitude

/-- A number is written with the fewest digits that read back. -/
def write (style : DecimalNotation) : Double → String
  | .nan => style.nan
  | .infinite negative => (if negative then "-" else "") ++ style.infinity
  | .finite negative significand exponent =>
      let digits :=
        if significand = 0 then ['0', '.', '0']
        else
          let value := Double.shortest significand exponent
          writeDigits style (value.trim (Double.digitCount value.digits))
      (if negative then "-" else "") ++ String.ofList digits

end DecimalNotation

namespace Double

/-- This is the text of a double. -/
def text (value : Double) : String := DecimalNotation.standard.write value

def digitsValue (digits : List Char) : Nat :=
  digits.foldl (fun value digit => 10 * value + (digit.toNat - '0'.toNat)) 0

/-- The exponent of a numeral is empty or a mark, an optional sign and digits. -/
def readExponent : List Char → Option Int
  | [] => some 0
  | mark :: rest =>
      let (negative, digits) := match rest with
        | '-' :: digits => (true, digits)
        | '+' :: digits => (false, digits)
        | digits => (false, digits)
      if (mark = 'e' ∨ mark = 'E') ∧ digits ≠ [] ∧ digits.all Char.isDigit then
        let size : Int := digitsValue digits
        some (if negative then -size else size)
      else none

/-- A numeral without its sign has digits, a point or both, and then an exponent. -/
def readUnsigned (negative : Bool) (text : List Char) : Option Double :=
  let whole := text.takeWhile Char.isDigit
  let (fraction, rest) := match text.dropWhile Char.isDigit with
    | '.' :: rest => (rest.takeWhile Char.isDigit, rest.dropWhile Char.isDigit)
    | rest => ([], rest)
  let digits := whole ++ fraction
  if digits = [] then none
  else
    (readExponent rest).map fun exponent =>
      ofDecimal negative (digitsValue digits) (exponent - fraction.length)

def infinityWords : List String := ["inf", "infinity"]

/-- Words for numbers that are not finite are read in either case. -/
def read? (text : String) : Option Double :=
  let (negative, size) := match text.toList with
    | '-' :: rest => (true, rest)
    | '+' :: rest => (false, rest)
    | rest => (false, rest)
  let word := String.ofList (size.map Char.toLower)
  if word ∈ infinityWords then some (.infinite negative)
  else if word = "nan" then some .nan
  else readUnsigned negative size

end Double

end ComponentEvents
