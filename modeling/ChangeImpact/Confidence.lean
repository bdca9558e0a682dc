/-!
# Confidence

How far an edge may be relied on: a binary64 number, held as the rational number that it is. Edges found in
definitions have the confidence one.

* `Confidence.nearest`: the binary64 number nearest to a rational number, of two the one with an even mantissa;
* `Confidence.text`: three decimals, where a half goes to the even neighbour.
-/

namespace ChangeImpact

abbrev Confidence := Rat

/-- The integer nearest to a fraction; a half goes to the even neighbour. -/
def roundHalfEven (num den : Nat) : Nat :=
  let whole := num / den
  let rest := num % den
  if 2 * rest < den then whole
  else if 2 * rest > den then whole + 1
  else if whole % 2 == 0 then whole
  else whole + 1

namespace Confidence

/-- The confidence of what was read in a definition. -/
def static : Confidence := 1

/-- The fraction as a multiple of the power of two given by the exponent, rounded. -/
def scaled (num den : Nat) : Int → Nat
  | .ofNat e => roundHalfEven num (den <<< e)
  | .negSucc e => roundHalfEven (num <<< (e + 1)) den

def powerOfTwo : Int → Rat
  | .ofNat e => 2 ^ e
  | .negSucc e => 1 / 2 ^ (e + 1)

/-- The exponent of the last of the 53 bits of a mantissa: the greatest for which the mantissa has not fewer, and not
below that of the least positive number. -/
def lastExponent (num den : Nat) : Int :=
  let e : Int := (num.log2 : Int) - den.log2 - 53
  let e := if num <<< (-e).toNat < den <<< (53 + e.toNat) then e else e + 1
  if e < -1074 then -1074 else e

def nearest (q : Rat) : Confidence :=
  let magnitude := q.num.natAbs
  if magnitude == 0 then 0
  else
    let e := lastExponent magnitude q.den
    let rounded : Rat := (scaled magnitude q.den e : Rat) * powerOfTwo e
    if q.num < 0 then -rounded else rounded

/-- The text of a number of thousandths. -/
def thousandths (n : Nat) : String :=
  let digits := toString (n % 1000)
  toString (n / 1000) ++ "." ++ String.ofList (List.replicate (3 - digits.length) '0') ++ digits

def text (c : Confidence) : String :=
  (if c.num < 0 then "-" else "") ++ thousandths (roundHalfEven (c.num.natAbs * 1000) c.den)

end Confidence

end ChangeImpact
