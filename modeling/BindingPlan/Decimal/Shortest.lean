import BindingPlan.Decimal.Double

/-! # The fewest digits that read back

The decimals that round to a double fill an interval around it, ends included if its significand is
even. `shortest` looks for a decimal in that interval with one digit, with two, and so on; a grid
of `n` digits can only meet the interval in one of the double's two neighbours on the grid, so
both are tested. Of two hits the nearer one is taken; an exact tie is for the format to settle. -/

namespace BindingPlan.Decimal

/-- The decimal number `digits * 10 ^ exponent`. -/
structure Numeral where
  digits : Nat
  exponent : Int
  deriving DecidableEq

/-- Which of two equally near decimals a format writes. -/
inductive Tie where
  | toEven
  | up

/-- A positive number `value / unit` with the interval `low / unit` to `high / unit` of the numbers
that round to it, over one common denominator. -/
structure Rounding where
  value : Nat
  low : Nat
  high : Nat
  unit : Nat
  closed : Bool

/-- The interval of the numbers that round to a positive double. Below a power of two the next
double is only half as far away. -/
def Double.rounding (x : Double) : Rounding :=
  let quarter := x.exponent - 2
  let scaled := fun n => Double.scale n quarter
  let m := 4 * x.significand
  let below := if x.significand = Nat.pow 2 52 ∧ x.exponent ≠ -1074 then 1 else 2
  ⟨scaled m, scaled (m - below), scaled (m + 2), Double.scale 1 (-quarter),
    x.significand % 2 == 0⟩

/-- Whether `n * num / den` rounds to the double of the interval. -/
def Rounding.admits (r : Rounding) (n num den : Nat) : Bool :=
  let point := n * num * r.unit
  if r.closed then decide (r.low * den ≤ point) && decide (point ≤ r.high * den)
  else decide (r.low * den < point) && decide (point < r.high * den)

/-- The multiple of the grid `num / den` that is admitted and nearest to the value, if any is. -/
def Rounding.onGrid? (r : Rounding) (tie : Tie) (num den : Nat) : Option Nat :=
  let down := r.value * den / (num * r.unit)
  let up := down + 1
  match r.admits down num den, r.admits up num den with
  | true, false => some down
  | false, true => some up
  | false, false => none
  | true, true =>
    let twice := 2 * r.value * den
    let sum := (down + up) * num * r.unit
    if twice < sum then some down
    else if sum < twice then some up
    else match tie with
      | .up => some up
      | .toEven => some (if down % 2 = 0 then down else up)

/-- The least power of ten above `value / unit`, as its exponent: an estimate from the size in bits,
put right by one comparison each way. -/
def Rounding.magnitude (r : Rounding) : Int :=
  let estimate : Int := ((r.value.log2 : Int) - r.unit.log2) * 30103 / 100000
  let above := fun (k : Int) =>
    decide (r.value * Nat.pow 10 (-k).toNat < r.unit * Nat.pow 10 k.toNat)
  if above (estimate - 1) then estimate - 1
  else if above estimate then estimate
  else if above (estimate + 1) then estimate + 1
  else estimate + 2

/-- The first decimal found with at most `count` further digits beyond `used`. -/
def Rounding.search (r : Rounding) (tie : Tie) (magnitude : Int) : Nat → Nat → Numeral
  | used, 0 => ⟨r.value / r.unit, magnitude - used⟩
  | used, count + 1 =>
    let e := magnitude - (used + 1)
    match r.onGrid? tie (Nat.pow 10 e.toNat) (Nat.pow 10 (-e).toNat) with
    | some n => ⟨n, e⟩
    | none => r.search tie magnitude (used + 1) count

/-- The decimal without zeros at the end of its digits; a double needs fewer than `fuel` steps. -/
def Numeral.stripped : Nat → Numeral → Numeral
  | 0, d => d
  | fuel + 1, d =>
    if d.digits % 10 = 0 then Numeral.stripped fuel ⟨d.digits / 10, d.exponent + 1⟩ else d

/-- The decimal with the fewest digits that reads back as the double, the nearest of those;
seventeen digits always suffice. Signs are left to the layout. -/
def Double.shortest (tie : Tie) (x : Double) : Numeral :=
  if x.isZero then ⟨0, 0⟩
  else
    let r := x.rounding
    Numeral.stripped 20 (r.search tie r.magnitude 0 17)

end BindingPlan.Decimal
