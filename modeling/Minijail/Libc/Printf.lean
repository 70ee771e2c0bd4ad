import Mathlib.Data.Nat.Digits

/-!
# `Minijail.Libc.Printf`: `%d` and `snprintf`

`build_idmap` formats its map with `snprintf (idmap, IDMAP_LEN, "%d %d 1", id, lowerid)`, where
`id` and `lowerid` are `id_t`, a 32-bit unsigned type. `%d` reads the argument as an `int`: the
same 32 bits read in two's complement (`signedOf`). An id of `2^31` or more therefore prints
with a minus sign. `snprintf` returns the length of the whole output and stores at most
`size - 1` characters and a NUL.
-/

set_option autoImplicit false

namespace Minijail.Libc

/-- The `int` that `%d` reads from a 32-bit unsigned argument: the same bits. -/
def signedOf (x : UInt32) : Int := Int.bmod x.toNat (2 ^ 32)

/-- `%d` of an `int`: a `-` for a negative value, then the decimal digits. -/
def formatD (v : Int) : List Char :=
  if v < 0 then '-' :: Nat.toDigits 10 v.natAbs else Nat.toDigits 10 v.toNat

/-- `snprintf (buf, size, ...)` whose whole output is `out`: the return value and what `buf`
holds, the first `size - 1` characters. -/
def snprintf (size : Nat) (out : List Char) : Nat × List Char :=
  (out.length, out.take (size - 1))

/-- `%d` reads an id below `2^31` as itself, and a larger one as the id minus `2^32`. -/
theorem signedOf_eq (x : UInt32) :
    signedOf x = if x.toNat < 2 ^ 31 then (x.toNat : Int) else x.toNat - 2 ^ 32 := by
  have hx : x.toNat < 2 ^ 32 := x.toNat_lt_size
  have hmod : (x.toNat : Int) % ((2 ^ 32 : Nat) : Int) = x.toNat :=
    Int.emod_eq_of_lt (by omega) (by omega)
  unfold signedOf
  split
  · rw [Int.bmod_pos _ _ (by omega), hmod]
  · rw [Int.bmod_neg _ _ (by omega), hmod]
    omega

/-- The decimal digits of a number below `10^10` are at most ten. -/
theorem toDigits_length_le (n : Nat) (h : n < 10 ^ 10) : (Nat.toDigits 10 n).length ≤ 10 :=
  Nat.toDigitsCore_length 10 (by norm_num) (n + 1) n 10 h (by norm_num)

/-- `%d` of an `int` takes at most eleven characters. -/
theorem formatD_length_le (v : Int) (hlo : -2 ^ 31 ≤ v) (hhi : v < 2 ^ 31) :
    (formatD v).length ≤ 11 := by
  unfold formatD
  split
  · have := toDigits_length_le v.natAbs (by omega)
    simp only [List.length_cons]
    omega
  · have := toDigits_length_le v.toNat (by omega)
    omega

/-- `signedOf` lies in the range of `int`. -/
theorem signedOf_bounds (x : UInt32) : -2 ^ 31 ≤ signedOf x ∧ signedOf x < 2 ^ 31 := by
  have hx : x.toNat < 2 ^ 32 := x.toNat_lt_size
  rw [signedOf_eq]
  split <;> omega

end Minijail.Libc
