import Minijail.Libc.Strtol
import Mathlib.Data.Int.Log
import Mathlib.Data.Rat.Floor

/-!
# `Minijail.Libc.Strtod`: how glibc reads a floating-point number, and `(int)` of it

`set_user` and `set_group` read a numeric id with `int uid = strtod (arg, &end)`: glibc's
`strtod`, then the C conversion of the `double` to `int`.

`strtod` is glibc's `____STRTOF_INTERNAL` in the C locale. After blanks and a sign it reads
one of: a decimal numeral (digits with an optional `.` and fraction, at least one digit,
then an optional `e` exponent), a hexadecimal one after `0x` (hexadecimal digits with an
optional `.`, at least one digit, then an optional `p` exponent in decimal), `inf` or
`infinity`, or `nan` with an optional `(...)` of letters, digits and `_`, all without regard
to case. An exponent marker counts only with a digit after it. A `0x` with no hexadecimal
significand after it reads as the numeral `0`, and `*endptr` points to the `x`. With nothing
to read `*endptr` is `nptr`.

The value of a finite numeral is exact here (`Numeral.finite`); `roundToDouble` rounds it to
53 significant bits, ties to even, as glibc does. The cast to `int` truncates toward zero.
C leaves the cast undefined outside `int`'s range and for a NaN, and the target decides:
`IntCast` carries its answer. The model does not bound the double's exponent: a value past
`DBL_MAX` stays finite and a tiny value keeps 53 bits. The truncated value the cast reads
is out of range or 0 either way.
-/

set_option autoImplicit false

namespace Minijail.Libc

/-- The number `strtod` read, before it is rounded to a `double`. -/
inductive Numeral where
  /-- `mantissa * radix ^ exponent`, with radix 10 for a decimal numeral and 2 for a
  hexadecimal one. -/
  | finite (mantissa radix : Nat) (exponent : Int)
  | infinity
  | nan
  deriving DecidableEq, Repr

/-- What `strtod (nptr, &end)` read: the sign, the number, and the rest of the string from the
character `end` points to. -/
structure StrtodResult where
  negative : Bool
  numeral : Numeral
  endptr : List Char
  deriving DecidableEq, Repr

/-- `s` starts with the word `w`, given in lower case, in either case. -/
def startsWithWord (w s : List Char) : Bool :=
  w.length ≤ s.length && (s.take w.length).map Char.toLower == w

/-- A character of the optional `(...)` after `nan`: a letter, a digit or `_`. -/
def isNanChar (c : Char) : Bool := c.isAlphanum || c == '_'

/-- The exponent after a marker (`e` or `p`, in lower case): its signed decimal value and the
rest. `none` when no digit follows the marker and its sign; the marker is then not read. -/
def readExponent (marker : Char) : List Char → Option (Int × List Char)
  | c :: s =>
    let t := afterSign s
    let ds := t.takeWhile Char.isDigit
    if c.toLower = marker ∧ ¬ ds.isEmpty then
      some (if isNegative s then -(valueIn 10 ds : Int) else valueIn 10 ds,
        t.dropWhile Char.isDigit)
    else none
  | [] => none

/-- The digits of a significand in the base that `isDig` names: the integer digits, the
fraction digits after a `.`, and the rest. A `.` is read after any integer digits.
`none` when there is no digit at all. -/
def readSignificand (isDig : Char → Bool) (s : List Char) :
    Option (List Char × List Char × List Char) :=
  let int := s.takeWhile isDig
  let s₁ := s.dropWhile isDig
  let frac := match s₁ with
    | '.' :: s₂ => (s₂.takeWhile isDig, s₂.dropWhile isDig)
    | _ => ([], s₁)
  if int.isEmpty ∧ frac.1.isEmpty then none else some (int, frac.1, frac.2)

/-- A finite numeral of the significand `(int, frac, rest)` in the base `16 ^ k` or `10`:
`digits * radix ^ (exponent - width * |frac|)`, with the exponent after `marker` when there is
one. -/
def finiteNumeral (base radix width : Nat) (marker : Char)
    (sig : List Char × List Char × List Char) : Numeral × List Char :=
  let (int, frac, rest) := sig
  let (e, rest) := (readExponent marker rest).getD (0, rest)
  (.finite (valueIn base (int ++ frac)) radix (e - width * frac.length), rest)

/-- The numeral at `t`, the string after the blanks and the sign, and the rest of the string;
`none` when `strtod` finds nothing to convert. -/
def readNumeral (t : List Char) : Option (Numeral × List Char) :=
  match t with
  | '0' :: x :: s =>
    if x = 'x' ∨ x = 'X' then
      match readSignificand (isDigitIn 16) s with
      | some sig => some (finiteNumeral 16 2 4 'p' sig)
      | none => some (.finite 0 10 0, x :: s)
    else (readSignificand Char.isDigit t).map (finiteNumeral 10 10 1 'e')
  | _ =>
    match readSignificand Char.isDigit t with
    | some sig => some (finiteNumeral 10 10 1 'e' sig)
    | none =>
      if startsWithWord "inf".data t then
        some (.infinity, t.drop (if startsWithWord "infinity".data t then 8 else 3))
      else if startsWithWord "nan".data t then
        let s := t.drop 3
        match s with
        | '(' :: s' =>
          match s'.dropWhile isNanChar with
          | ')' :: rest => some (.nan, rest)
          | _ => some (.nan, s)
        | _ => some (.nan, s)
      else none

/-- `strtod (nptr, &end)`. With nothing to convert the result is `0.0` and `end` is `nptr`. -/
def strtod (nptr : List Char) : StrtodResult :=
  let s := nptr.dropWhile isSpace
  match readNumeral (afterSign s) with
  | some (n, rest) => { negative := isNegative s, numeral := n, endptr := rest }
  | none => { negative := false, numeral := .finite 0 10 0, endptr := nptr }

/-- Round to the nearest integer, ties to even. -/
def roundHalfEven (x : ℚ) : ℤ :=
  if x - ⌊x⌋ < 1 / 2 then ⌊x⌋
  else if 1 / 2 < x - ⌊x⌋ then ⌊x⌋ + 1
  else if ⌊x⌋ % 2 = 0 then ⌊x⌋ else ⌊x⌋ + 1

/-- The `double` nearest to the non-negative rational `q`: 53 significant bits, ties to even.
The exponent is not bounded (module docstring). -/
def roundToDouble (q : ℚ) : ℚ :=
  if q ≤ 0 then 0
  else
    let ulp : ℚ := 2 ^ (Int.log 2 q - 52)
    (roundHalfEven (q / ulp) : ℚ) * ulp

/-- The exact value of a finite numeral. -/
def Numeral.value (m radix : Nat) (e : Int) : ℚ := (m : ℚ) * (radix : ℚ) ^ e

/-- What the target's conversion of a `double` to `int` gives where C leaves it undefined:
for a value outside `int`'s range, by its sign (`true`: negative), and for a NaN. x86-64
gives `INT_MIN` for both; arm64 saturates and gives 0 for a NaN. -/
structure IntCast where
  outOfRange : Bool → Int
  nan : Int

/-- `(int) strtod (...)`: the double truncated toward zero when the result is an `int`,
and otherwise what the target gives. -/
def StrtodResult.toInt (cast : IntCast) (r : StrtodResult) : Int :=
  match r.numeral with
  | .nan => cast.nan
  | .infinity => cast.outOfRange r.negative
  | .finite m radix e =>
    let t : Int := ⌊roundToDouble (Numeral.value m radix e)⌋₊
    let v := if r.negative then -t else t
    if -2 ^ 31 ≤ v ∧ v < 2 ^ 31 then v else cast.outOfRange r.negative

/-! ### Decimal digit strings -/

/-- `strtod` reads a string of decimal digits whole, as the numeral of the digits' value. -/
theorem strtod_digits {digits : List Char} (hne : digits ≠ [])
    (hdig : ∀ c ∈ digits, c.isDigit) :
    strtod digits = ⟨false, .finite (valueIn 10 digits) 10 0, []⟩ := by
  obtain ⟨d, ds, rfl⟩ := List.exists_cons_of_ne_nil hne
  have hd := not_special_of_isDigitIn16
    (isDigitIn16_of_le (by decide) ((isDigitIn_ten d).trans (hdig d (List.mem_cons_self _ _))))
  have hsig : readSignificand Char.isDigit (d :: ds) = some (d :: ds, [], []) := by
    simp [readSignificand, List.takeWhile_eq_self_iff.2 hdig, List.dropWhile_eq_nil_iff.2 hdig]
  have hnum : readNumeral (d :: ds) = some (.finite (valueIn 10 (d :: ds)) 10 0, []) := by
    have hfin : finiteNumeral 10 10 1 'e' (d :: ds, [], []) =
        (.finite (valueIn 10 (d :: ds)) 10 0, []) := by
      simp [finiteNumeral, readExponent]
    unfold readNumeral
    split
    · rename_i x s h
      have hx := not_special_of_isDigitIn16 (isDigitIn16_of_le (by decide)
        ((isDigitIn_ten x).trans (hdig x (by simp [h]))))
      rw [if_neg (by simp [hx.2.2.2.1, hx.2.2.2.2]), hsig, Option.map_some', hfin]
    · simp only [hsig, hfin]
  simp [strtod, List.dropWhile_cons, hd.1, afterSign, hd.2.1, hd.2.2.1, hnum, isNegative]

theorem roundHalfEven_intCast (n : ℤ) : roundHalfEven n = n := by
  simp [roundHalfEven]

/-- A natural number below `2^53` is a `double`: rounding leaves it as it is. -/
theorem roundToDouble_natCast {m : ℕ} (hm : m < 2 ^ 53) : roundToDouble m = m := by
  rcases Nat.eq_zero_or_pos m with rfl | hpos
  · simp [roundToDouble]
  have hlog : Nat.log 2 m < 53 := Nat.log_lt_of_lt_pow (by omega) hm
  obtain ⟨k, hk⟩ : ∃ k : ℕ, Int.log 2 (m : ℚ) - 52 = -(k : ℤ) :=
    ⟨52 - Nat.log 2 m, by rw [Int.log_natCast]; omega⟩
  have hq : ¬ (m : ℚ) ≤ 0 := by simp; omega
  have hdiv : (m : ℚ) / 2 ^ (-(k : ℤ)) = ((m * 2 ^ k : ℕ) : ℤ) := by
    push_cast
    rw [zpow_neg, zpow_natCast, div_inv_eq_mul]
  simp only [roundToDouble, hq, ite_false, hk, hdiv, roundHalfEven_intCast]
  push_cast
  rw [zpow_neg, zpow_natCast, mul_assoc, mul_inv_cancel₀ (by positivity), mul_one]

/-- `(int) strtod` of the numeral of a natural number that fits in an `int` is that number. -/
theorem toInt_of_nat (cast : IntCast) {m : ℕ} (hm : m < 2 ^ 31) :
    StrtodResult.toInt cast ⟨false, .finite m 10 0, []⟩ = m := by
  have hround : roundToDouble (Numeral.value m 10 0) = m := by
    rw [Numeral.value, zpow_zero, mul_one, roundToDouble_natCast (by omega)]
  simp only [StrtodResult.toInt, hround, Nat.floor_natCast, Bool.false_eq_true, ite_false]
  rw [if_pos ⟨by omega, by omega⟩]

end Minijail.Libc
