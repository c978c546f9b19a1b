import TemplateFacts.Binary64.Basic

/-!
The fewest decimal digits that read back as the same number, and the two forms that they are written
in: with an exponent where it is long, and always positional.
-/

namespace TemplateFacts.Binary64

/-- Decimal digits and the power of ten of the last one. -/
structure Digits where
  digits : Nat
  power : Int
deriving DecidableEq, Repr

/-- The end points of the reals that round to a magnitude, and whether they do so themselves. -/
structure Basin where
  low : Nat × Nat
  high : Nat × Nat
  closed : Bool

/-- The basin of a positive magnitude. -/
def basin (significand : Nat) (exponent : Int) : Basin :=
  -- Below a power of two the neighbour is only half as far away.
  let narrow := significand == Nat.pow 2 (precision - 1) && leastExponent < exponent
  { low := if narrow then magnitude (4 * significand - 1) (exponent - 2)
      else magnitude (2 * significand - 1) (exponent - 1)
    high := magnitude (2 * significand + 1) (exponent - 1)
    closed := significand % 2 == 0 }

/-- A ratio is at most another. -/
def ratioLe (x y : Nat × Nat) : Bool :=
  -- Cross multiplication keeps the order of positive ratios.
  x.1 * y.2 ≤ y.1 * x.2

/-- A ratio lies in the basin. -/
def Basin.holds (basin : Basin) (x : Nat × Nat) : Bool :=
  -- The end points belong to it only when ties come back to the middle.
  if basin.closed then ratioLe basin.low x && ratioLe x basin.high
  else !ratioLe x basin.low && !ratioLe basin.high x

/-- The decimal numeral as a ratio. -/
def Digits.ratio (d : Digits) : Nat × Nat :=
  -- A negative power of ten divides.
  (d.digits * Nat.pow 10 d.power.toNat, Nat.pow 10 (-d.power).toNat)

/-- The power of ten of the first decimal digit of a positive ratio. -/
def leadingPower (numerator denominator : Nat) : Int :=
  -- The bit length gives an estimate that is at most one too large.
  let estimate : Int := Int.fdiv ((floorLog2 numerator denominator + 1) * 30103) 100000 + 1
  let reached (power : Int) : Bool := ratioLe (Digits.ratio ⟨1, power⟩) (numerator, denominator)
  if reached estimate then estimate
  else if reached (estimate - 1) then estimate - 1
  else estimate - 2

/-- The nearer of the two numerals around the ratio on a decimal grid, if one lies in the basin. -/
def gridPoint (basin : Basin) (x : Nat × Nat) (power : Int) : Option Digits :=
  -- The ratio is divided by the step of the grid.
  let step := Digits.ratio ⟨1, power⟩
  let numerator := x.1 * step.2
  let denominator := x.2 * step.1
  let below : Digits := ⟨numerator / denominator, power⟩
  let above : Digits := ⟨numerator / denominator + 1, power⟩
  let nearest : Digits := ⟨divNearestEven numerator denominator, power⟩
  match basin.holds below.ratio, basin.holds above.ratio with
  | true, true => some nearest
  | true, false => some below
  | false, true => some above
  | false, false => none

/-- Searches grids that grow finer by one digit each. -/
def searchGrids (basin : Basin) (x : Nat × Nat) : (tries : Nat) → (power : Int) → Digits
  -- Seventeen digits always suffice, so the last answer is never used.
  | 0, power => ⟨x.1 / x.2, power⟩
  | tries + 1, power =>
    match gridPoint basin x power with
    | some d => d
    | none => searchGrids basin x tries (power - 1)

/-- Moves trailing zeros of the digits into the power. -/
def Digits.trimZeros : (fuel : Nat) → Digits → Digits
  -- At most seventeen digits were searched.
  | 0, d => d
  | fuel + 1, d =>
    if d.digits % 10 == 0 && d.digits != 0 then
      Digits.trimZeros fuel ⟨d.digits / 10, d.power + 1⟩
    else d

/-- The fewest digits that read back as the magnitude, and of those the nearest. -/
def shortest (significand : Nat) (exponent : Int) : Digits :=
  -- Grids of one digit, two digits and so on are tried in turn.
  let x := magnitude significand exponent
  Digits.trimZeros 18 (searchGrids (basin significand exponent) x 18 (leadingPower x.1 x.2))

/-- The sign in front of a magnitude. -/
def signText (negative : Bool) : String := if negative then "-" else ""

/-- The digits with a point after as many of them as the position says, zeros filling the gaps. -/
def positional (digits : List Char) (point : Int) : List Char × List Char :=
  -- The whole part and the fraction are returned apart.
  if point ≤ 0 then (['0'], List.replicate (-point).toNat '0' ++ digits)
  else
    (digits.take point.toNat ++ List.replicate (point.toNat - digits.length) '0',
      digits.drop point.toNat)

/-- The number as it stands in a document: a fraction or an exponent is always present. -/
def documentText : Binary64 → String
  -- The form is positional from five zeros after the point up to sixteen digits before it.
  | .nan => "null"
  | .infinite _ => "null"
  | .finite negative 0 _ => signText negative ++ "0.0"
  | .finite negative significand exponent =>
    let d := shortest significand exponent
    let digits := Nat.toDigits 10 d.digits
    let point : Int := digits.length + d.power
    signText negative ++
      if -5 < point && point ≤ 16 then
        let (whole, fraction) := positional digits point
        String.ofList (whole ++ '.' :: if fraction.isEmpty then ['0'] else fraction)
      else
        let mantissa := match digits with
          | first :: second :: rest => first :: '.' :: second :: rest
          | short => short
        let sign := if point - 1 < 0 then "e-" else "e+"
        String.ofList mantissa ++ sign ++ toString (point - 1).natAbs

/-- The number written out without an exponent, and without a point when it is whole. -/
def plainText : Binary64 → String
  -- Infinities and the undefined number have names.
  | .nan => "NaN"
  | .infinite negative => signText negative ++ "inf"
  | .finite negative 0 _ => signText negative ++ "0"
  | .finite negative significand exponent =>
    let d := shortest significand exponent
    let digits := Nat.toDigits 10 d.digits
    let (whole, fraction) := positional digits (digits.length + d.power)
    signText negative ++
      String.ofList (whole ++ if fraction.isEmpty then [] else '.' :: fraction)

end TemplateFacts.Binary64
