/-! Double-precision binary numbers, with every operation rounded once from its exact value. -/

namespace TemplateFacts

/-- A double-precision number: a signed significand times a power of two, an infinity, or no number. -/
inductive Binary64 where
  | finite (negative : Bool) (significand : Nat) (exponent : Int)
  | infinite (negative : Bool)
  | nan
deriving DecidableEq, Repr, Inhabited

namespace Binary64

/-- The smallest exponent, at which the significand may be short. -/
def leastExponent : Int := -1074

/-- The largest exponent of a finite number. -/
def greatestExponent : Int := 971

/-- The number of bits of a full significand. -/
def precision : Nat := 53

/-- Zero with the given sign. -/
def zero (negative : Bool) : Binary64 := .finite negative 0 leastExponent

/-- The quotient rounded to the nearest integer, a half going to the even neighbour. -/
def divNearestEven (numerator denominator : Nat) : Nat :=
  -- Twice the remainder is compared with the denominator.
  let quotient := numerator / denominator
  let twice := 2 * (numerator % denominator)
  if twice > denominator || (twice == denominator && quotient % 2 == 1) then quotient + 1
  else quotient

/-- The numerator and the denominator after multiplication of the ratio by a power of two. -/
def scaleRatio (numerator denominator : Nat) (power : Int) : Nat × Nat :=
  -- A negative power goes into the denominator.
  (numerator * Nat.pow 2 power.toNat, denominator * Nat.pow 2 (-power).toNat)

/-- The largest power of two that is not above a positive ratio. -/
def floorLog2 (numerator denominator : Nat) : Int :=
  -- The difference of the bit lengths is right or one too large.
  let guess : Int := (Nat.log2 numerator : Int) - Nat.log2 denominator
  let scaled := scaleRatio numerator denominator (-guess)
  if scaled.1 < scaled.2 then guess - 1 else guess

/-- The number nearest to a ratio, a tie going to the even significand. -/
def ofRatio (negative : Bool) (numerator denominator : Nat) : Binary64 :=
  -- The exponent is fixed first, and rounding up may carry into the next one.
  if numerator == 0 then zero negative
  else
    let exponent := max (floorLog2 numerator denominator - 52) leastExponent
    let scaled := scaleRatio numerator denominator (-exponent)
    let significand := divNearestEven scaled.1 scaled.2
    let carried := significand == Nat.pow 2 precision
    let exponent := if carried then exponent + 1 else exponent
    if exponent > greatestExponent then .infinite negative
    else .finite negative (if carried then Nat.pow 2 (precision - 1) else significand) exponent

/-- The number nearest to an integer. -/
def ofInt (n : Int) : Binary64 :=
  -- Zero has no sign as an integer.
  ofRatio (n < 0) n.natAbs 1

/-- The number nearest to decimal digits times a power of ten. -/
def ofDecimal (negative : Bool) (digits : Nat) (power : Int) : Binary64 :=
  -- A negative power of ten divides.
  ofRatio negative (digits * Nat.pow 10 power.toNat) (Nat.pow 10 (-power).toNat)

/-- The magnitude of a significand and an exponent as a ratio. -/
def magnitude (significand : Nat) (exponent : Int) : Nat × Nat :=
  -- A significand is an integer before it is scaled.
  scaleRatio significand 1 exponent

/-- The number with the other sign. -/
def negate : Binary64 → Binary64
  -- Signs are stored apart from magnitudes.
  | .finite negative significand exponent => .finite (!negative) significand exponent
  | .infinite negative => .infinite (!negative)
  | .nan => .nan

/-- The rounded product, for a finite factor that is not zero. -/
def scaleUp (x factor : Binary64) : Binary64 :=
  -- The exact product of two ratios is rounded once.
  match x, factor with
  | .finite s m e, .finite t n f =>
    let left := magnitude m e
    let right := magnitude n f
    ofRatio (s != t) (left.1 * right.1) (left.2 * right.2)
  | x, _ => x

/-- The rounded quotient, for a finite divisor that is not zero. -/
def scaleDown (x divisor : Binary64) : Binary64 :=
  -- The exact quotient of two ratios is rounded once.
  match x, divisor with
  | .finite s m e, .finite t n f =>
    let left := magnitude m e
    let right := magnitude n f
    ofRatio (s != t) (left.1 * right.2) (left.2 * right.1)
  | x, _ => x

/-- The number is one of the two zeros. -/
def isZero : Binary64 → Bool
  -- Only the significand matters.
  | .finite _ significand _ => significand == 0
  | _ => false

/-- The number is neither infinite nor undefined. -/
def isFinite : Binary64 → Bool
  -- Finite numbers have a constructor of their own.
  | .finite .. => true
  | _ => false

/-- The numbers compare as equal, which the two zeros do and an undefined number never does. -/
def numEq (x y : Binary64) : Bool :=
  -- Finite numbers in normal form are equal exactly when their parts are.
  match x, y with
  | .nan, _ => false
  | _, .nan => false
  | x, y => x == y || (x.isZero && y.isZero)

/-- The rounded difference of two finite numbers, without its sign. -/
def distance (x y : Binary64) : Binary64 :=
  -- The exact difference of two ratios is rounded once.
  match x, y with
  | .finite s m e, .finite t n f =>
    let left := magnitude m e
    let right := magnitude n f
    let a : Int := left.1 * right.2
    let b : Int := right.1 * left.2
    let difference := (if s then -a else a) - (if t then -b else b)
    ofRatio false difference.natAbs (left.2 * right.2)
  | _, _ => .nan

/-- The number is below the distance from one to the next greater number. -/
def isTiny : Binary64 → Bool
  -- That distance is two to the power of minus fifty-two.
  | .finite negative significand exponent =>
    let ratio := magnitude significand exponent
    negative || ratio.1 * 4503599627370496 < ratio.2
  | .infinite negative => negative
  | .nan => false

/-- The number is a zero with a sign. -/
def isMinusZero : Binary64 → Bool
  -- Other negative numbers are no zeros.
  | .finite negative significand _ => negative && significand == 0
  | _ => false

/-- The number equals an integer exactly. -/
def eqInt (x : Binary64) (n : Int) : Bool :=
  -- The ratio equals the integer when the numerator is that multiple of the denominator.
  match x with
  | .finite negative significand exponent =>
    let ratio := magnitude significand exponent
    ratio.1 == n.natAbs * ratio.2 && (significand == 0 || negative == decide (n < 0))
  | _ => false

/-- The nearest integer, a half going away from zero, and an infinity held at the given bounds. -/
def toIntClamped (least greatest : Int) : Binary64 → Int
  -- An undefined number counts as zero.
  | .nan => 0
  | .infinite negative => if negative then least else greatest
  | .finite negative significand exponent =>
    let ratio := magnitude significand exponent
    let size : Int := ((2 * ratio.1 + ratio.2) / (2 * ratio.2) : Nat)
    max least (min greatest (if negative then -size else size))

end Binary64

end TemplateFacts
