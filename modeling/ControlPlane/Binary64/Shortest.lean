import ControlPlane.Binary64.Basic

/-!
# The fewest digits that read back

A positive number is the nearest one to every decimal in an interval around it. Its shortest text
uses the fewest digits with which some decimal lies in that interval, and of those the decimal
nearest to the number.

## Main definitions

- `Binary64.Interval`: the decimals that read back to one number.
- `Binary64.shortest`: digits and power of ten of the shortest one.
- `Binary64.text`: the digits laid out, positionally in the middle range and scientifically outside.
-/

namespace ControlPlane.Binary64

/-- The reals that are nearest to one positive number, over a common denominator: they lie between
`low / den` and `high / den` around `mid / den`, ends included if `closed`. -/
structure Interval where
  low : Nat
  mid : Nat
  high : Nat
  den : Nat
  closed : Bool

/-- The interval of a positive number. Below a power of two the next number is half as far away. -/
def interval (x : Binary64) : Interval :=
  let m := x.significand
  let narrow := x.magnitudeBits % hiddenBit == 0 && decide (1 < x.exponentField)
  let low := if narrow then 4 * m - 1 else 4 * m - 2
  let e := x.exponent - 2
  { low := low <<< e.toNat, mid := (4 * m) <<< e.toNat, high := (4 * m + 2) <<< e.toNat
    den := 1 <<< (-e).toNat, closed := m % 2 == 0 }

namespace Interval

/-- Whether `num / den'` lies in the interval. -/
def contains (i : Interval) (num den' : Nat) : Bool :=
  let v := num * i.den
  if i.closed then decide (i.low * den' ≤ v) && decide (v ≤ i.high * den')
  else decide (i.low * den' < v) && decide (v < i.high * den')

/-- The point of the grid of multiples of `10 ^ scale` that reads back, if one of the two
neighbours of the number does: the nearer one, or the even one of two equally near. -/
def gridPoint? (i : Interval) (scale : Int) : Option Nat :=
  let up := Nat.pow 10 scale.toNat
  let down := Nat.pow 10 (-scale).toNat
  let below := i.mid * down / (i.den * up)
  let above := below + 1
  let fits (k : Nat) : Bool := i.contains (k * up) down
  let distance (k : Nat) : Nat :=
    let v := k * up * i.den
    let w := i.mid * down
    if v ≤ w then w - v else v - w
  match fits below, fits above with
  | true, false => some below
  | false, true => some above
  | false, false => none
  | true, true =>
    if distance below < distance above then some below
    else if distance above < distance below then some above
    else if below % 2 = 0 then some below else some above

end Interval

/-- The largest `k` with `10 ^ k ≤ num / den`, looked for downwards from `start`. -/
def floorLog10 (num den : Nat) : Nat → Int → Int
  | 0, start => start
  | fuel + 1, start =>
    let up := Nat.pow 10 start.toNat
    let down := Nat.pow 10 (-start).toNat
    if den * up ≤ num * down then start else floorLog10 num den fuel (start - 1)

/-- The first grid, from coarse to fine, with a point that reads back. Seventeen digits always
suffice. -/
def firstGrid (i : Interval) (lead : Int) : Nat → Nat → Nat × Int
  | 0, count => ((i.gridPoint? (lead - count)).getD 0, lead - count)
  | fuel + 1, count =>
    match i.gridPoint? (lead - count) with
    | some k => (k, lead - count)
    | none => firstGrid i lead fuel (count + 1)

/-- The shortest decimal `digits * 10 ^ scale` that reads back to a positive number. -/
def shortest (x : Binary64) : Nat × Int :=
  let i := x.interval
  let guess : Int := ((floorLog2 i.mid i.den) * 30103) / 100000 + 1
  let lead := floorLog10 i.mid i.den 4 guess
  firstGrid i lead 17 0

/-- The digits without the zeros at their end, and how many zeros those were. -/
def trimZeros : Nat → Nat → Nat → Nat × Nat
  | 0, n, dropped => (n, dropped)
  | fuel + 1, n, dropped =>
    if n ≠ 0 ∧ n % 10 = 0 then trimZeros fuel (n / 10) (dropped + 1) else (n, dropped)

/-- How a number is laid out from its digits. -/
structure Layout where
  /-- The smallest power of ten of the first digit that is written positionally. -/
  leastPositional : Int
  /-- The first power of ten of the first digit that is written scientifically again. -/
  scientificFrom : Int
  /-- What a whole number ends in. -/
  wholeEnding : String
  /-- What stands before a positive exponent. -/
  exponentPlus : String

/-- Positional from `0.00001` up to below `1e+16`, and whole numbers end in `.0`. -/
def layout : Layout :=
  { leastPositional := -5, scientificFrom := 16, wholeEnding := ".0", exponentPlus := "+" }

/-- Digits `ds`, the first of which has the weight `10 ^ lead`, laid out. -/
def Layout.render (l : Layout) (ds : List Char) (lead : Int) : String :=
  if l.leastPositional ≤ lead ∧ lead < l.scientificFrom then
    if lead < 0 then
      "0." ++ String.ofList (List.replicate ((-lead).toNat - 1) '0' ++ ds)
    else
      let places := lead.toNat + 1
      if ds.length ≤ places then
        String.ofList (ds ++ List.replicate (places - ds.length) '0') ++ l.wholeEnding
      else
        String.ofList (ds.take places) ++ "." ++ String.ofList (ds.drop places)
  else
    let mantissa :=
      match ds with
      | [] => "0"
      | [d] => String.ofList [d]
      | d :: rest => String.ofList (d :: '.' :: rest)
    let sign := if lead < 0 then "-" else l.exponentPlus
    mantissa ++ "e" ++ sign ++ toString lead.natAbs

/-- The text of a finite number. -/
def text (x : Binary64) : String :=
  let sign := if x.negative then "-" else ""
  if x.isZero then sign ++ "0" ++ layout.wholeEnding
  else
    let (digits, scale) := x.shortest
    let (digits, dropped) := trimZeros 20 digits 0
    let ds := Nat.toDigits 10 digits
    sign ++ layout.render ds (scale + dropped + ds.length - 1)

end ControlPlane.Binary64
