/-! Floating-point settings: rounded to a natural number, and as the shortest decimal that still
tells the value apart from its neighbours. -/
namespace Initialism

inductive Double where
  | nan
  | infinite (negative : Bool)
  | finite (negative : Bool) (m : Nat) (q : Int)
deriving DecidableEq, Repr

namespace Double

def ofBits (b : Nat) : Double :=
  let negative := b >>> 63 != 0
  let e := b >>> 52 % 2048
  let f := b % (1 <<< 52)
  if e = 2047 then if f = 0 then .infinite negative else .nan
  else if e = 0 then .finite negative f (-1074)
  else .finite negative (f + 1 <<< 52) ((e : Int) - 1075)

def ofFloat (x : Float) : Double := ofBits x.toBits.toNat

/-- The nearest natural number, a half going up; what is negative counts as zero. -/
def round : Double → Option Nat
  | nan => some 0
  | infinite negative => if negative then some 0 else none
  | finite negative m q =>
    if negative then some 0
    else if 0 ≤ q then some (m <<< q.toNat)
    else some ((m + 1 <<< ((-q).toNat - 1)) >>> (-q).toNat)

/-- A multiple of `10 ^ k` between the midpoints to the neighbours of `m * 2 ^ q`, the nearest one
if there are several. A midpoint itself belongs to the value whose `m` is even. -/
def onGrid (m : Nat) (q k : Int) : Option Nat :=
  let unit := Nat.pow 10 (-k).toNat <<< (q - 2).toNat
  let grid := Nat.pow 10 k.toNat <<< (2 - q).toNat
  let value := 4 * m * unit
  -- At a power of two the neighbour below is only half as far away.
  let low := (4 * m - if m = 1 <<< 52 && q ≠ -1074 then 1 else 2) * unit
  let high := (4 * m + 2) * unit
  let inside (d : Nat) : Bool :=
    if m % 2 = 0 then low ≤ d * grid && d * grid ≤ high else low < d * grid && d * grid < high
  let d := value / grid
  match inside d, inside (d + 1) with
  | true, true => if value - d * grid < (d + 1) * grid - value then some d else some (d + 1)
  | true, false => some d
  | false, true => some (d + 1)
  | false, false => none

def shortestFrom (m : Nat) (q : Int) : Nat → Int → Nat × Int
  | 0, k => (0, k)
  | n+1, k =>
    match onGrid m q k with
    | some d => (d, k)
    | none => shortestFrom m q n (k - 1)

/-- Every finite double has a decimal of at most 17 digits on one of these grids. -/
def shortest (m : Nat) (q : Int) : Nat × Int := shortestFrom m q 660 310

def zeros (n : Nat) : List Char := List.replicate n '0'

def positional (d : Nat) (k : Int) : List Char :=
  let ds := Nat.toDigits 10 d
  if 0 ≤ k then ds ++ zeros k.toNat
  else
    let n := (-k).toNat
    if n < ds.length then ds.take (ds.length - n) ++ '.' :: ds.drop (ds.length - n)
    else '0' :: '.' :: (zeros (n - ds.length) ++ ds)

def signed (negative : Bool) (cs : List Char) : List Char := if negative then '-' :: cs else cs

def chars : Double → List Char
  | nan => ['N', 'a', 'N']
  | infinite negative => signed negative ['i', 'n', 'f']
  | finite negative m q =>
    signed negative <| if m = 0 then ['0'] else positional (shortest m q).1 (shortest m q).2

end Double

/-- The double nearest to `m * 10 ^ e`. Far outside the range of doubles the digits do not matter,
and the decimal logarithm of 2 to five places is enough to know their number. -/
def floatOfDecimal (m : Nat) (e : Int) : Float :=
  let size : Int := m.log2 * 30103 / 100000 + e
  if m = 0 || size < -400 then 0
  else if 400 < size then 1 / 0
  else if 0 ≤ e then Float.ofScientific (m * Nat.pow 10 e.toNat) false 0
  else Float.ofScientific m true (-e).toNat

end Initialism
