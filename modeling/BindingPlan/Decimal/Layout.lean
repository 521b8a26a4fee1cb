import BindingPlan.Decimal.Shortest

/-! # How a double is written

Two layouts share the digits of `Double.shortest`. A *document* writes `1.0`, `0.00001` and
`1000000000000000.0` in full and uses an exponent outside of that span (`1e-6`, `1e+16`). A *plain*
text has no exponent and no empty fraction (`1`, `0.0000001`). -/

namespace BindingPlan.Decimal

/-- What a layout decides: which decimal exponents are written in full, whether a whole number
keeps a zero after the point, and where ties go. -/
structure Layout where
  inFull : Int → Bool
  keepsFraction : Bool
  tie : Tie

/-- Documents write the exponents from -5 to 15 in full, keep `.0`, and send ties to even. -/
def Layout.document : Layout :=
  ⟨fun e => decide (-5 ≤ e) && decide (e ≤ 15), true, .toEven⟩

/-- Plain texts write every number in full without `.0`; a tie goes up. -/
def Layout.plain : Layout :=
  ⟨fun _ => true, false, .up⟩

/-- The digits with the point after `point` of them; zeros fill the places without a digit. -/
def placed (keepsFraction : Bool) (digits : List Char) (point : Int) : List Char :=
  if point ≤ 0 then
    '0' :: '.' :: (List.replicate (-point).toNat '0' ++ digits)
  else if point < digits.length then
    digits.take point.toNat ++ '.' :: digits.drop point.toNat
  else
    digits ++ List.replicate (point.toNat - digits.length) '0' ++
      (if keepsFraction then ['.', '0'] else [])

/-- One digit, the others after a point, and a signed exponent. -/
def scientific (digits : List Char) (exponent : Int) : List Char :=
  let mantissa := match digits with
    | [] => []
    | [d] => [d]
    | d :: rest => d :: '.' :: rest
  let sign := if exponent < 0 then '-' else '+'
  mantissa ++ 'e' :: sign :: Nat.toDigits 10 exponent.natAbs

/-- The text of a double. -/
def Layout.chars (layout : Layout) (x : Double) : List Char :=
  let d := x.shortest layout.tie
  let digits := Nat.toDigits 10 d.digits
  let point : Int := digits.length + d.exponent
  let body :=
    if layout.inFull (point - 1) then placed layout.keepsFraction digits point
    else scientific digits (point - 1)
  if x.negative then '-' :: body else body

/-- The text of a double. -/
def Layout.text (layout : Layout) (x : Double) : String :=
  String.ofList (layout.chars x)

end BindingPlan.Decimal
