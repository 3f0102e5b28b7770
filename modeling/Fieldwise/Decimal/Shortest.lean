/-!
# The shortest decimal of a number

`shortest` finds the fewest decimal digits that read back as a given floating-point number, and of
those the nearest to it. A number is taken as `mantissa · 2 ^ exponent`; all arithmetic is exact.
-/

namespace Fieldwise.Decimal

/-- A positive number in decimal: `digits · 10 ^ exponent`. -/
structure Scientific where
  digits : Nat
  exponent : Int
  deriving BEq, DecidableEq, Repr

/-- The numbers that read as the same floating-point number, from `lo` to `hi` with the number itself
at `mid`, each as a multiple of `1 / unit`. The ends belong to them if `closed`. -/
structure Interval where
  lo : Nat
  mid : Nat
  hi : Nat
  unit : Nat
  closed : Bool

/-- The numbers that round to `mantissa · 2 ^ exponent`. Below a power of two floating-point numbers
lie twice as close, so that the interval reaches half as far down. -/
def interval (mantissa : Nat) (exponent : Int) : Interval :=
  let below := if mantissa = 1 <<< 52 ∧ exponent ≠ -1074 then 1 else 2
  let up := 1 <<< (exponent - 2).toNat
  { lo := (4 * mantissa - below) * up
    mid := 4 * mantissa * up
    hi := (4 * mantissa + 2) * up
    unit := 1 <<< (2 - exponent).toNat
    closed := mantissa % 2 == 0 }

/-- The interval in units of `10 ^ k`. -/
def Interval.scale (i : Interval) (k : Int) : Interval :=
  let down := Nat.pow 10 (-k).toNat
  { i with
    lo := i.lo * down
    mid := i.mid * down
    hi := i.hi * down
    unit := i.unit * Nat.pow 10 k.toNat }

/-- Whether a whole number lies in the interval. -/
def Interval.holds (i : Interval) (n : Nat) : Bool :=
  if i.closed then i.lo ≤ n * i.unit && n * i.unit ≤ i.hi
  else i.lo < n * i.unit && n * i.unit < i.hi

/-- The whole number in the interval that is nearest to its middle, if there is one. -/
def Interval.nearest? (i : Interval) : Option Nat :=
  let n := i.mid / i.unit
  let low := 0 < n && i.holds n
  let high := i.holds (n + 1)
  if low && high then
    if 2 * (i.mid - n * i.unit) < i.unit then some n
    else if 2 * (i.mid - n * i.unit) = i.unit then some (if n % 2 = 0 then n else n + 1)
    else some (n + 1)
  else if low then some n
  else if high then some (n + 1)
  else none

/-- The first power of ten, from `k` down, of which a multiple lies in the interval. -/
def search (i : Interval) (k : Int) : (steps : Nat) → Scientific
  | 0 => ⟨0, 0⟩
  | steps + 1 =>
    match (i.scale k).nearest? with
    | some n => ⟨n, k⟩
    | none => search i (k - 1) steps

/-- The shortest decimal of `mantissa · 2 ^ exponent`. -/
def shortest (mantissa : Nat) (exponent : Int) : Scientific :=
  search (interval mantissa exponent) 310 700

/-- The mantissa and the exponent of a finite number, from its bits. -/
def parts (bits : Nat) : Nat × Int :=
  let fraction : Nat := bits % (1 <<< 52)
  let biased : Nat := bits / (1 <<< 52) % (1 <<< 11)
  if biased = 0 then (fraction, -1074) else (fraction + (1 <<< 52), (biased : Int) - 1075)

/-- How a decimal is written: positionally if the point stands between `least` and `greatest` places
after the first digit, with an exponent otherwise. -/
structure Style where
  least : Int
  greatest : Int

/-- The digits of a number as characters. -/
def digitsOf (n : Nat) : List Char := (toString n).toList

/-- The text of a decimal. A whole number in positional form ends in `.0`. -/
def Scientific.render (s : Scientific) (style : Style) : List Char :=
  let ds := digitsOf s.digits
  let n := ds.length
  let point := (n : Int) + s.exponent
  if style.least < point && point ≤ style.greatest then
    if 0 ≤ s.exponent then ds ++ List.replicate s.exponent.toNat '0' ++ ['.', '0']
    else if 0 < point then ds.take point.toNat ++ '.' :: ds.drop point.toNat
    else '0' :: '.' :: List.replicate (-point).toNat '0' ++ ds
  else
    let mantissa := match ds with
      | [] => []
      | [d] => [d]
      | d :: rest => d :: '.' :: rest
    mantissa ++ 'e' :: (toString (point - 1)).toList

/-- The text of a finite floating-point number. -/
def render (style : Style) (x : Float) : String :=
  let bits := x.toBits.toNat
  let negative := 1 <<< 63 ≤ bits
  let (mantissa, exponent) := parts bits
  let text := if mantissa = 0 then ['0', '.', '0'] else (shortest mantissa exponent).render style
  String.ofList (if negative then '-' :: text else text)

/-- The style in which only numbers of moderate size are written positionally. -/
def moderate : Style := ⟨-5, 16⟩

/-- The style without exponents. -/
def positional : Style := ⟨-400, 400⟩

end Fieldwise.Decimal
