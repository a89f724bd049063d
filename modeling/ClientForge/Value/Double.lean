namespace ClientForge

/-- A double-precision number, held as the shortest decimal that reads back to it: no finite one
ends in the digit zero but zero itself. -/
inductive Double
  | finite (negative : Bool) (digits : Nat) (exponent : Int)
  | infinite (negative : Bool)
  | notANumber
  deriving DecidableEq, Repr, Inhabited

namespace Double

def roundDiv (num den : Nat) : Nat :=
  let floor := num / den
  let rest := 2 * (num % den)
  if den < rest || (rest == den && floor % 2 == 1) then floor + 1 else floor

def power (base : Nat) (exponent : Int) : Nat × Nat :=
  if 0 ≤ exponent then (Nat.pow base exponent.toNat, 1) else (1, Nat.pow base (-exponent).toNat)

def significandBound : Nat := 0x20000000000000

/-- The significand and binary exponent nearest to a positive quotient; the significand is below
the bound, except that it reaches it by rounding up. -/
def toBinary (num den : Nat) : Nat × Int :=
  let scaled (q : Int) : Nat × Nat := let (p, r) := power 2 q; (num * r, den * p)
  let guess : Int := max ((Nat.log2 num : Int) - Nat.log2 den - 53) (-1074)
  let (n, d) := scaled guess
  if significandBound * d ≤ n then
    let (n, d) := scaled (guess + 1)
    (roundDiv n d, guess + 1)
  else (roundDiv n d, guess)

def compareScaled (c : Nat) (e : Int) (x : Nat) (q : Int) : Ordering :=
  let (a, b) := power 10 e
  let (p, r) := power 2 q
  compare (c * a * r) (x * p * b)

def leadingPlace (m : Nat) (q : Int) : Int :=
  let guess : Int := (((Nat.log2 m : Int) + q) * 30103).fdiv 100000
  let fits (k : Int) : Bool := compareScaled 1 k m q != .gt
  ([guess + 2, guess + 1, guess, guess - 1].find? fits).getD (guess - 2)

def decimalOfLength? (m : Nat) (q : Int) (count : Nat) : Option (Nat × Int) :=
  let e := leadingPlace m q - count + 1
  let (a, b) := power 10 e
  let (p, r) := power 2 q
  let below := m * p * b / (a * r)
  let low := if 2 * m == significandBound && q != -1074 then 4 * m - 1 else 4 * m - 2
  let inside (c : Nat) : Bool :=
    let toLow := compareScaled c e low (q - 2)
    let toHigh := compareScaled c e (4 * m + 2) (q - 2)
    (toLow == .gt && toHigh == .lt) || (m % 2 == 0 && (toLow == .eq || toHigh == .eq))
  let nearer := roundDiv (m * p * b) (a * r)
  let other := if nearer == below then below + 1 else below
  if inside nearer then some (nearer, e) else if inside other then some (other, e) else none

def stripZeros : (fuel : Nat) → (digits : Nat) → (exponent : Int) → Nat × Int
  | 0, digits, exponent => (digits, exponent)
  | fuel + 1, digits, exponent =>
    if digits % 10 == 0 then stripZeros fuel (digits / 10) (exponent + 1) else (digits, exponent)

def shortest (m : Nat) (q : Int) : Nat × Int :=
  let (digits, exponent) := ((List.range' 1 17).findSome? (decimalOfLength? m q)).getD (0, 0)
  stripZeros 18 digits exponent

def ofDecimal (negative : Bool) (digits : Nat) (exponent : Int) : Double :=
  let size : Int := (toString digits).length + exponent
  if digits == 0 || size < -330 then .finite negative 0 0
  else if 310 < size then .infinite negative
  else
    let (p, r) := power 10 exponent
    let (m, q) := toBinary (digits * p) r
    if m == 0 then .finite negative 0 0
    else if 0 ≤ q && Nat.pow 2 1024 ≤ m * Nat.pow 2 q.toNat then .infinite negative
    else
      let (m, q) := if m == significandBound then (m / 2, q + 1) else (m, q)
      let (d, e) := shortest m q
      .finite negative d e

def literal : Double → String
  | .notANumber => "nan"
  | .infinite negative => if negative then "-inf" else "inf"
  | .finite negative digits exponent =>
    let text := (toString digits).toList
    let place : Int := text.length + exponent
    let body : List Char :=
      if digits == 0 then ['0', '.', '0']
      -- positional from `1e-4` up to below `1e16`
      else if -4 < place && place ≤ 16 then
        if place ≤ 0 then '0' :: '.' :: List.replicate (-place).toNat '0' ++ text
        else
          let padded := text ++ List.replicate (place.toNat - text.length) '0'
          let rest := padded.drop place.toNat
          padded.take place.toNat ++ '.' :: (if rest.isEmpty then ['0'] else rest)
      else
        let power := place - 1
        let size := (toString power.natAbs).toList
        text.take 1 ++ (if text.length == 1 then [] else '.' :: text.drop 1) ++
          'e' :: (if power < 0 then '-' else '+') :: List.replicate (2 - size.length) '0' ++ size
    String.ofList (if negative then '-' :: body else body)

def isZero : Double → Bool
  | .finite _ digits _ => digits == 0
  | _ => false

end Double

end ClientForge
