import IssueTiming.Toml.Scan

/-!
# TOML numbers

Integers are written in base ten with an optional sign, or in base sixteen,
eight or two without one, and fit in sixty-four bits. A float has a fraction, an
exponent or both, or is one of `inf` and `nan`. Single underscores may stand
between digits.
-/

namespace IssueTiming.Toml

def scanDigit (base : Nat) : Scanner Nat
  | [] => none
  | head :: rest => (digitValue? base head).map fun digit => (digit, rest)

def scanFurtherDigit (base : Nat) : Scanner Nat
  | '_' :: rest => scanDigit base rest
  | text => scanDigit base text

def scanDigits (base : Nat) : Scanner (List Nat) := fun text => do
  let (first, text) ← scanDigit base text
  let (others, text) := repeatAll (scanFurtherDigit base) text
  return (first :: others, text)

inductive Sign where
  | plus
  | minus
deriving DecidableEq, Repr

namespace Sign

def apply : Sign → Nat → Int
  | .plus, magnitude => magnitude
  | .minus, magnitude => -magnitude

end Sign

def scanSign : List Char → Sign × List Char
  | '-' :: rest => (.minus, rest)
  | '+' :: rest => (.plus, rest)
  | text => (.plus, text)

def scanWhole : Scanner (List Nat) := fun text =>
  match text with
  | '0' :: rest => some ([0], rest)
  | text => scanDigits 10 text

def inRange (value : Int) : Bool :=
  let bound : Int := Nat.pow 2 63
  decide (-bound ≤ value) && decide (value < bound)

def scanRadix (base : Nat) : Scanner Int := fun text => do
  let (digits, text) ← scanDigits base text
  let value : Int := ofDigits base digits
  if inRange value then return (value, text) else none

def scanInteger : Scanner Int
  | '0' :: 'x' :: rest => scanRadix 16 rest
  | '0' :: 'o' :: rest => scanRadix 8 rest
  | '0' :: 'b' :: rest => scanRadix 2 rest
  | text => do
      let (sign, text) := scanSign text
      let (digits, text) ← scanWhole text
      let value := sign.apply (ofDigits 10 digits)
      if inRange value then return (value, text) else none

def scanFraction : Scanner (List Nat) := fun text => do
  scanDigits 10 (← expect '.' text)

def scanExponent : Scanner Int := fun text => do
  match text with
  | 'e' :: rest | 'E' :: rest =>
      let (sign, rest) := scanSign rest
      let (digits, rest) ← scanDigits 10 rest
      return (sign.apply (ofDigits 10 digits), rest)
  | _ => none

/-- Whether `mantissa * 10 ^ exponent` rounds to infinity in double precision:
it is not below the middle between the largest double and the power of two above
it. Exponents far beyond the range of doubles are decided by the number of
digits. -/
def overflows (mantissa : Nat) (exponent : Int) : Bool :=
  let limit := Nat.pow 2 1024 - Nat.pow 2 970
  let digits : Int := (Nat.toDigits 10 mantissa).length
  if mantissa = 0 then false
  else if digits + exponent > 310 then true
  else if digits + exponent < 300 then false
  else if exponent < 0 then decide (limit * Nat.pow 10 (-exponent).toNat ≤ mantissa)
  else decide (limit ≤ mantissa * Nat.pow 10 exponent.toNat)

example : overflows 1 308 = false ∧ overflows 1 309 = true ∧ overflows 18 307 = true := by
  decide +kernel

/-- A float in decimal form. Beyond the largest double only negative numbers are
admitted. -/
def scanDecimalFloat : List Char → Option (List Char) := fun text => do
  let (sign, text) := scanSign text
  let (whole, text) ← scanWhole text
  let (fraction, text) ←
    match text.head? with
    | some '.' => scanFraction text
    | some 'e' | some 'E' => some ([], text)
    | _ => none
  let (exponent, text) :=
    match scanExponent text with
    | some (exponent, rest) => (exponent, rest)
    | none => (0, text)
  let mantissa := ofDigits 10 (whole ++ fraction)
  if sign = .plus ∧ overflows mantissa (exponent - fraction.length) then none
  else return text

def scanSpecialFloat (text : List Char) : Option (List Char) :=
  let (_, text) := scanSign text
  (expectAll ['i', 'n', 'f'] text).or (expectAll ['n', 'a', 'n'] text)

def scanFloat (text : List Char) : Option (List Char) :=
  (scanDecimalFloat text).or (scanSpecialFloat text)

end IssueTiming.Toml
