/-!
# Decimal text of doubles

A decimal number `d · 10^e` read as a double becomes the nearest value
`m · 2^q` with `m < 2^53` (a tie goes to the even `m`). `nearestDouble` computes it in
exact integer arithmetic, and says when the number is too large for a double.

A double is written back with the fewest significant digits that read back as the
same double, and among those the nearest to it (`shortest`). A decimal reads back
as `m · 2^q` when it lies within half a unit of the last place of it: the interval
up to the neighbouring doubles' midpoints, closed when `m` is even (a tie then
rounds to `m`) and open otherwise. Below a power of two the lower neighbour is
closer, so the lower half of the interval is halved.

`positional` writes such digits without an exponent: `0.001`, `1.5`, `120`.
-/

namespace ListField
namespace Shortest

/-- The number of bits of `n`. -/
def bitLength (n : Nat) : Nat := if n = 0 then 0 else Nat.log2 n + 1

/-- `n / d` rounded to the nearest integer, a tie to the even one. -/
def roundHalfEven (n d : Nat) : Nat :=
  let q := n / d
  let r := n % d
  if 2 * r < d then q
  else if 2 * r > d then q + 1
  else if q % 2 = 0 then q else q + 1

/-- Compares `a · 2^x` with `b · 2^y`. -/
def cmpScaled (a : Nat) (x : Int) (b : Nat) (y : Int) : Ordering :=
  let z := min x y
  compare (a * Nat.pow 2 (x - z).toNat) (b * Nat.pow 2 (y - z).toNat)

/-- The double nearest to `d · 10^e`, as `(m, q)` with value `m · 2^q`, or `none`
when the number is too large for a double. -/
def nearestDouble (d : Nat) (e : Int) : Option (Nat × Int) :=
  let width : Int := (Nat.toDigits 10 d).length
  if d = 0 then some (0, 0)
  -- far beyond the largest double, or far below half the smallest one
  else if e + width > 311 then none
  else if e + width < -330 then some (0, 0)
  else
    let num := d * Nat.pow 10 e.toNat
    let den := Nat.pow 10 (-e).toNat
    -- the binary exponent `p` with 2^p ≤ num/den < 2^(p+1)
    let p0 : Int := (bitLength num : Int) - bitLength den
    let atLeast (k : Int) : Bool :=
      if k ≥ 0 then num ≥ den * Nat.pow 2 k.toNat else num * Nat.pow 2 (-k).toNat ≥ den
    let p : Int := if atLeast p0 then p0 else p0 - 1
    let q : Int := max (p - 52) (-1074)
    let m := if q ≥ 0 then roundHalfEven num (den * Nat.pow 2 q.toNat)
      else roundHalfEven (num * Nat.pow 2 (-q).toNat) den
    let (m, q) := if m = Nat.pow 2 53 then (Nat.pow 2 52, q + 1) else (m, q)
    if q > 971 then none else some (m, q)

/-- The power of ten of the leading digit of `m · 2^q` (for `m > 0`). -/
def decimalExponent (m : Nat) (q : Int) : Int :=
  let p : Int := (bitLength m : Int) - 1 + q
  let guess : Int := (p * 30103) / 100000
  -- 10^k ≤ m · 2^q
  let below (k : Int) : Bool :=
    if k ≥ 0 then cmpScaled (Nat.pow 10 k.toNat) 0 m q != .gt
    else cmpScaled 1 0 (m * Nat.pow 10 (-k).toNat) q != .gt
  let rec settle : Nat → Int → Int
    | 0, k => k
    | fuel + 1, k =>
      if !below k then settle fuel (k - 1)
      else if below (k + 1) then settle fuel (k + 1)
      else k
  settle 8 guess

/-- The digits `c` and power `t` of the shortest decimal `c · 10^t` that reads back
as the double `m · 2^q` (`m > 0`), nearest to it among the shortest. -/
def shortest (m : Nat) (q : Int) : Nat × Int :=
  let even := m % 2 = 0
  let lowerGap : Nat := if m = Nat.pow 2 52 && q > -1074 then 1 else 2
  -- work in units of 2^(q-2): the value is 4m, the interval is [4m - lowerGap, 4m + 2]
  let v := 4 * m
  let lo := v - lowerGap
  let hi := v + 2
  let u : Int := q - 2
  let e10 := decimalExponent m q
  -- compares c · 10^t with x · 2^u
  let cmp (c : Nat) (t : Int) (x : Nat) : Ordering :=
    if t ≥ 0 then cmpScaled (c * Nat.pow 10 t.toNat) 0 x u
    else cmpScaled c 0 (x * Nat.pow 10 (-t).toNat) u
  let inside (c : Nat) (t : Int) : Bool :=
    match cmp c t lo, cmp c t hi with
    | .gt, .lt => true
    | .eq, .lt => even
    | .gt, .eq => even
    | .eq, .eq => even
    | _, _ => false
  -- |c · 10^t - v · 2^u| compared for two candidates, in units of 2^u·10^-t scaled
  let distance (c : Nat) (t : Int) : Nat :=
    let z := min u 0
    let a := if t ≥ 0 then c * Nat.pow 10 t.toNat * Nat.pow 2 (0 - z).toNat else c * Nat.pow 2 (0 - z).toNat
    let b := if t ≥ 0 then v * Nat.pow 2 (u - z).toNat else v * Nat.pow 2 (u - z).toNat * Nat.pow 10 (-t).toNat
    if a ≥ b then a - b else b - a
  let rec search : Nat → Nat → Nat × Int
    | 0, _ => (m, q)
    | fuel + 1, k =>
      let t : Int := e10 - k + 1
      -- the candidate below: floor(v · 2^u / 10^t)
      let cLo :=
        if t ≥ 0 then
          if u ≥ 0 then v * Nat.pow 2 u.toNat / Nat.pow 10 t.toNat else v / (Nat.pow 10 t.toNat * Nat.pow 2 (-u).toNat)
        else
          if u ≥ 0 then v * Nat.pow 2 u.toNat * Nat.pow 10 (-t).toNat else v * Nat.pow 10 (-t).toNat / Nat.pow 2 (-u).toNat
      let cHi := cLo + 1
      match inside cLo t, inside cHi t with
      | true, true => if distance cHi t < distance cLo t then (cHi, t) else (cLo, t)
      | true, false => (cLo, t)
      | false, true => (cHi, t)
      | false, false => search fuel (k + 1)
  let (c, t) := search 17 1
  strip c t
where
  /-- Drops trailing zero digits. -/
  strip (c : Nat) (t : Int) : Nat × Int :=
    let rec go : Nat → Nat → Int → Nat × Int
      | 0, c, t => (c, t)
      | fuel + 1, c, t => if c ≠ 0 && c % 10 = 0 then go fuel (c / 10) (t + 1) else (c, t)
    go 20 c t

/-- `c · 10^t` written without an exponent; a whole number gets no decimal point. -/
def positional (negative : Bool) (c : Nat) (t : Int) : String :=
  let digits := (Nat.toDigits 10 c)
  let body :=
    if t ≥ 0 then String.ofList (digits ++ List.replicate t.toNat '0')
    else
      let k := (-t).toNat
      if digits.length > k then
        String.ofList (digits.take (digits.length - k)) ++ "." ++ String.ofList (digits.drop (digits.length - k))
      else "0." ++ String.ofList (List.replicate (k - digits.length) '0' ++ digits)
  (if negative then "-" else "") ++ body

/-- The text of the double nearest to `±d · 10^e`, written with the fewest digits and
without an exponent, or `none` when it is too large. -/
def doubleText (negative : Bool) (d : Nat) (e : Int) : Option String :=
  (nearestDouble d e).map fun (m, q) =>
    if m = 0 then positional negative 0 0
    else
      let (c, t) := shortest m q
      positional negative c t

end Shortest
end ListField
