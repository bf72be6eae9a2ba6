/-! # Shortest decimals of binary floating-point numbers

A finite double stands for every real that rounds to it: the reals from halfway to its lower
neighbour to halfway to its upper one, both ends included exactly when its significand is even.
The shortest decimal of a double is a decimal in that interval with as few significant digits as
possible; of two such decimals on the same grid the nearer one is taken, and of two equally near
the one with the even last digit.

The search tries the grids `10^(k-n)` for `n = 1, 2, …` digits, where `10^k` is the least power
of ten above the value: on each grid only the value's two neighbours can lie in the interval if
any point of the grid does. All comparisons are exact, on natural numbers.
-/

namespace Mqtt

namespace Decimal

/-- A finite non-negative double as `m * 2^q`. -/
structure Binary where
  m : Nat
  q : Int
  /-- Whether the gap to the value below is half the gap to the value above, as it is just
  above a power of two. -/
  narrowBelow : Bool
  deriving Repr, DecidableEq

/-- The magnitude of a finite double, from its bits. -/
def Binary.ofBits (b : UInt64) : Binary :=
  let e := ((b >>> 52) &&& 0x7FF).toNat
  let f := (b &&& 0xFFFFFFFFFFFFF).toNat
  if e == 0 then ⟨f, -1074, false⟩ else ⟨Nat.pow 2 52 + f, (e : Int) - 1075, f == 0 && e > 1⟩

/-- A decimal `digits * 10^exp`. -/
structure Dec where
  digits : Nat
  exp : Int
  deriving Repr, DecidableEq

/-- Compares `a * 10^i` with `n * 2^j` exactly. -/
def cmpScaled (a : Nat) (i : Int) (n : Nat) (j : Int) : Ordering :=
  compare (a * Nat.pow 10 i.toNat * Nat.pow 2 (-j).toNat) (n * Nat.pow 2 j.toNat * Nat.pow 10 (-i).toNat)

/-- Whether a decimal lies among the reals that round to `x`, ties going to the even
significand. The ends are `(4m - 2) * 2^(q-2)` (or `(4m - 1) * 2^(q-2)` over a narrow gap) and
`(4m + 2) * 2^(q-2)`. -/
def Binary.readsBack (x : Binary) (d : Dec) : Bool :=
  let lo := if x.narrowBelow then 4 * x.m - 1 else 4 * x.m - 2
  let hi := 4 * x.m + 2
  let incl := x.m % 2 == 0
  let cl := cmpScaled d.digits d.exp lo (x.q - 2)
  let ch := cmpScaled d.digits d.exp hi (x.q - 2)
  (cl == .gt || (incl && cl == .eq)) && (ch == .lt || (incl && ch == .eq))

/-- The number of decimal digits of a natural number; one for zero. -/
def digitCount (n : Nat) : Nat := (Nat.toDigits 10 n).length

/-- Whether `m * 2^q < 10^k`. -/
def Binary.below (x : Binary) (k : Int) : Bool := cmpScaled 1 k x.m x.q == .gt

/-- The least `k` with `m * 2^q < 10^k`, for `m > 0`: estimated from the digit counts of the
value's two factors, then corrected. -/
def Binary.scale (x : Binary) : Int :=
  -- 2^q has about 0.30103 * q decimal digits
  let est : Int := (digitCount x.m : Int) + (x.q * 30103).fdiv 100000
  let up := [est - 2, est - 1, est, est + 1, est + 2, est + 3].find? x.below
  (up.getD (est + 4))

/-- The value divided by `10^e`, rounded down. -/
def Binary.floorOn (x : Binary) (e : Int) : Nat :=
  (x.m * Nat.pow 2 x.q.toNat * Nat.pow 10 (-e).toNat) / (Nat.pow 2 (-x.q).toNat * Nat.pow 10 e.toNat)

/-- Of two candidates `lo` and `lo + 1` on the grid `10^e` that both read back, the nearer;
on an exact tie the even one. -/
def Binary.nearer (x : Binary) (lo : Nat) (e : Int) : Nat :=
  -- compare 2 * value with (2 * lo + 1) * 10^e
  match cmpScaled (2 * lo + 1) e (2 * x.m) x.q with
  | .gt => lo
  | .lt => lo + 1
  | .eq => if lo % 2 == 0 then lo else lo + 1

/-- The first hit on the grid `10^e`, if either neighbour of the value reads back. -/
def Binary.onGrid (x : Binary) (e : Int) : Option Dec :=
  let lo := x.floorOn e
  let a := x.readsBack ⟨lo, e⟩
  let b := x.readsBack ⟨lo + 1, e⟩
  if a && b then some ⟨x.nearer lo e, e⟩
  else if a then some ⟨lo, e⟩
  else if b then some ⟨lo + 1, e⟩
  else none

/-- Moves trailing zeros of the digits into the exponent; `fuel` bounds the steps. -/
def Dec.strip : Nat → Dec → Dec
  | 0, d => d
  | fuel + 1, d =>
    if d.digits != 0 && d.digits % 10 == 0 then strip fuel ⟨d.digits / 10, d.exp + 1⟩ else d

/-- The exact decimal value of `m * 2^q`. -/
def Binary.exact (x : Binary) : Dec :=
  if x.q ≥ 0 then ⟨x.m * Nat.pow 2 x.q.toNat, 0⟩
  else ⟨x.m * Nat.pow 5 (-x.q).toNat, x.q⟩

/-- The shortest decimal of a finite positive double. The search never needs more than
seventeen digits; should it find nothing, the exact value is returned. -/
def Binary.shortest (x : Binary) : Dec :=
  let k := x.scale
  let grids := (List.range 17).map fun (n : Nat) => k - ((n : Int) + 1)
  match grids.findSome? x.onGrid with
  | some d => d.strip 400
  | none => x.exact.strip 1100

/-- The decimal form of a finite double: whether it is negative, and the shortest decimal of
its magnitude (zero for either zero). -/
def ofFloat (x : Float) : Bool × Dec :=
  let b := x.toBits
  let neg := b >>> 63 == 1
  let mag := Binary.ofBits b
  if mag.m == 0 then (neg, ⟨0, 0⟩) else (neg, mag.shortest)

end Decimal

end Mqtt
