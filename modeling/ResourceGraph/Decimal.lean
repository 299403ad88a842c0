/-! # Decimal numbers

Numbers with a finite decimal expansion, kept as sign, digits and power of ten.  Their written
form is positional while the leading digit stands between the fourth place after the point and the
sixteenth before it, and has an exponent beyond.
-/

namespace ResourceGraph

/-- The number `digits · 10 ^ exponent`, with a minus sign if `negative`. -/
structure Decimal where
  negative : Bool
  digits : Nat
  exponent : Int
deriving DecidableEq, Inhabited

namespace Decimal

/-- Digits without the zeros at their end, and the power of ten that makes up for them. -/
def stripZeros (digits : Nat) (exponent : Int) : Nat × Int :=
  if h : digits ≠ 0 ∧ digits % 10 = 0 then stripZeros (digits / 10) (exponent + 1)
  else (digits, exponent)
termination_by digits
decreasing_by omega

/-- The same number with no zero at the end of its digits; zero has exponent zero. -/
def normal (d : Decimal) : Decimal :=
  if d.digits = 0 then ⟨d.negative, 0, 0⟩
  else
    let stripped := stripZeros d.digits d.exponent
    ⟨d.negative, stripped.1, stripped.2⟩

def ofInt (n : Int) : Decimal := normal ⟨decide (n < 0), n.natAbs, 0⟩

/-- The normal form with zero unsigned, so that equal numbers have equal forms. -/
def canonical (d : Decimal) : Decimal :=
  if d.digits = 0 then ⟨false, 0, 0⟩ else d.normal

def isZero (d : Decimal) : Bool := d.digits == 0

/-! ## Written form -/

/-- The exponent in writing, signed and with two digits or more. -/
def renderExponent (e : Int) : String :=
  let size := toString e.natAbs
  (if e < 0 then "-" else "+") ++ (if e.natAbs < 10 then "0" ++ size else size)

/-- The digits in writing, the point standing after the first `point` of them. -/
def renderDigits (digits : List Char) (point : Int) : String :=
  if point ≤ -4 ∨ 16 < point then
    let mantissa := match digits with
      | [] => ""
      | [d] => String.ofList [d]
      | d :: rest => String.ofList (d :: '.' :: rest)
    mantissa ++ "e" ++ renderExponent (point - 1)
  else if point ≤ 0 then
    "0." ++ String.ofList (List.replicate (-point).toNat '0' ++ digits)
  else if (digits.length : Int) ≤ point then
    String.ofList (digits ++ List.replicate (point.toNat - digits.length) '0') ++ ".0"
  else
    String.ofList (digits.take point.toNat) ++ "." ++ String.ofList (digits.drop point.toNat)

/-- The written form, which always shows that the number is not an integer literal. -/
def render (d : Decimal) : String :=
  let n := d.normal
  let sign := if n.negative then "-" else ""
  if n.digits = 0 then sign ++ "0.0"
  else
    let digits := (toString n.digits).toList
    sign ++ renderDigits digits (digits.length + n.exponent)

end Decimal

end ResourceGraph
