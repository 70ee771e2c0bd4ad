import Mathlib.Data.List.Basic
import Mathlib.Algebra.Group.Int

/-!
# `Minijail.Libc.Strtol`: how glibc reads an integer

`minijail0` reads every integer on its command line with the C library: `strtoull` for the
capability and securebits masks (`use_caps`, `skip_securebits`), `strtoul` for the mount flags
of `-k` (`add_mount`), and `atoi` for the bind flag of `-b` and the three fields of `-R`
(`add_binding`, `add_rlimit`). No call looks at `errno`. `use_caps` and `skip_securebits`
look at `*endptr`; the other calls pass no end pointer.

`strtolScan` is glibc's `____STRTOL_INTERNAL` for the two bases used here, 10 and 16. It
skips C blanks, reads a sign, skips a `0x` or `0X` prefix in base 16, then reads the longest
run of digits. The scan keeps the exact value of the digits. Each function then applies its
own overflow rule. `strtoull` and `strtoul` return `ULLONG_MAX` when the value does not fit,
and negate modulo `2^64` after a `-`. `strtol` saturates at the bounds of a `long`. `atoi` is
`(int) strtol (nptr, NULL, 10)`, and the narrowing keeps the low 32 bits (`Int.bmod`).

The target is LP64: `long` and `unsigned long` are 64 bits wide, as on x86-64 and arm64. A C
string is a `List Char` with no NUL in it; a `Char` stands for one byte.
-/

set_option autoImplicit false

namespace Minijail.Libc

/-- `isspace` in the C locale: space, `\t`, `\n`, `\v`, `\f` and `\r`. -/
def isSpace (c : Char) : Bool :=
  c == ' ' || c == '\t' || c == '\n' || c == '\x0b' || c == '\x0c' || c == '\r'

/-- The value `strtol` gives the character `c`: 0 to 9 for a decimal digit, 10 on for a letter
of either case, and 36, a digit of no base, for anything else. -/
def digitValue (c : Char) : Nat :=
  if c.isDigit then c.toNat - '0'.toNat
  else if c.isLower then c.toNat - 'a'.toNat + 10
  else if c.isUpper then c.toNat - 'A'.toNat + 10
  else 36

/-- `c` is a digit of the base `base`. -/
def isDigitIn (base : Nat) (c : Char) : Bool := digitValue c < base

/-- The value of the digit string `ds` in the base `base`, most significant digit first. -/
def valueIn (base : Nat) (ds : List Char) : Nat :=
  ds.foldl (fun n c => n * base + digitValue c) 0

/-- What is left after the optional sign `strtol` reads. -/
def afterSign : List Char → List Char
  | '-' :: s => s
  | '+' :: s => s
  | s => s

/-- The sign `strtol` reads is `-`. -/
def isNegative (s : List Char) : Bool := s.head? == some '-'

/-- In base 16 `strtol` skips a `0x` or `0X` prefix: what follows it, when there is one. -/
def afterHexPrefix (base : Nat) : List Char → Option (List Char)
  | '0' :: x :: s => if base = 16 ∧ (x = 'x' ∨ x = 'X') then some s else none
  | _ => none

/-- What one scan of `strtol` found: the sign, the exact value of the digits, and the rest of
the string from the character `*endptr` points to. -/
structure Conversion where
  negative : Bool
  magnitude : Nat
  endptr : List Char
  deriving DecidableEq, Repr

/-- The scan shared by `strtol`, `strtoul` and `strtoull` in base `base`. With no digit there
is no conversion: the value is 0 and `*endptr` is `nptr`, or the `x` of a bare `0x`. -/
def strtolScan (base : Nat) (nptr : List Char) : Conversion :=
  let s := nptr.dropWhile isSpace
  let t := afterSign s
  let u := (afterHexPrefix base t).getD t
  let digits := u.takeWhile (isDigitIn base)
  if digits.isEmpty then
    { negative := false, magnitude := 0
      endptr := if (afterHexPrefix base t).isSome then t.drop 1 else nptr }
  else
    { negative := isNegative s, magnitude := valueIn base digits
      endptr := u.dropWhile (isDigitIn base) }

/-- The `unsigned long long` result of a scan: `ULLONG_MAX` when the digits' value is `2^64`
or more, else the value, negated modulo `2^64` after a `-`. -/
def Conversion.toULL (c : Conversion) : Nat :=
  if 2 ^ 64 ≤ c.magnitude then 2 ^ 64 - 1
  else if c.negative then (2 ^ 64 - c.magnitude) % 2 ^ 64 else c.magnitude

/-- The `long` result of a scan: the signed value, saturated at `LONG_MIN` and `LONG_MAX`. -/
def Conversion.toLong (c : Conversion) : Int :=
  if c.negative then max (-(c.magnitude : Int)) (-2 ^ 63)
  else min (c.magnitude : Int) (2 ^ 63 - 1)

/-- `strtoull (nptr, &end, base)`: the value and what `end` points to. -/
def strtoull (nptr : List Char) (base : Nat) : UInt64 × List Char :=
  (UInt64.ofNat (strtolScan base nptr).toULL, (strtolScan base nptr).endptr)

/-- `strtoul (nptr, &end, base)`. On LP64 `unsigned long` is 64 bits wide, and glibc reads it
with the routine of `strtoull`. -/
def strtoul (nptr : List Char) (base : Nat) : UInt64 × List Char :=
  strtoull nptr base

/-- `strtol (nptr, &end, base)`: the value and what `end` points to. -/
def strtol (nptr : List Char) (base : Nat) : Int × List Char :=
  ((strtolScan base nptr).toLong, (strtolScan base nptr).endptr)

/-- `atoi (nptr)`, which glibc defines as `(int) strtol (nptr, NULL, 10)`. -/
def atoi (nptr : List Char) : Int :=
  Int.bmod (strtol nptr 10).1 (2 ^ 32)

/-- The C conversion of an integer to a 32-bit unsigned type (`uid_t`, `gid_t`, `id_t`): the
value modulo `2^32`. -/
def toUInt32 (x : Int) : UInt32 :=
  UInt32.ofNat (x % 2 ^ 32).toNat

theorem toUInt32_natCast {m : Nat} (hm : m < 2 ^ 32) : toUInt32 m = UInt32.ofNat m := by
  rw [toUInt32, Int.emod_eq_of_lt (Int.natCast_nonneg m) (by omega), Int.toNat_natCast]

/-! ### What `strtoull` reads whole -/

/-- A hexadecimal digit is neither a blank, nor a sign, nor the `x` of a prefix. -/
theorem not_special_of_isDigitIn16 {c : Char} (h : isDigitIn 16 c) :
    isSpace c = false ∧ c ≠ '+' ∧ c ≠ '-' ∧ c ≠ 'x' ∧ c ≠ 'X' := by
  refine ⟨?_, ?_, ?_, ?_, ?_⟩
  · cases hs : isSpace c
    · rfl
    · simp only [isSpace, Bool.or_eq_true, beq_iff_eq] at hs
      rcases hs with ((((rfl | rfl) | rfl) | rfl) | rfl) | rfl <;> revert h <;> decide
  all_goals rintro rfl; revert h; decide

/-- A string of hexadecimal digits has no `0x` prefix. -/
theorem afterHexPrefix_of_digits {base : Nat} {l : List Char} (h : ∀ c ∈ l, isDigitIn 16 c) :
    afterHexPrefix base l = none := by
  unfold afterHexPrefix
  split
  · have hx := not_special_of_isDigitIn16 (h _ (List.mem_cons_of_mem _ (List.mem_cons_self _ _)))
    simp [hx.2.2.2.1, hx.2.2.2.2]
  · rfl

/-- A digit of a base up to 16 is a hexadecimal digit. -/
theorem isDigitIn16_of_le {base : Nat} {c : Char} (hbase : base ≤ 16) (h : isDigitIn base c) :
    isDigitIn 16 c := by
  simp only [isDigitIn, decide_eq_true_eq] at h ⊢
  omega

/-- In base 10 the digits are the decimal digits. -/
theorem isDigitIn_ten (c : Char) : isDigitIn 10 c = c.isDigit := by
  unfold isDigitIn digitValue
  split_ifs with h₁
  · simp only [h₁, decide_eq_true_eq]
    simp only [Char.isDigit, Bool.and_eq_true, decide_eq_true_eq] at h₁
    have h₂ : c.val.toNat ≤ 57 := UInt32.toNat_le_of_le (by decide) h₁.2
    show c.val.toNat - 48 < 10
    omega
  all_goals simp [h₁]

/-- The scan reads whole a string of blanks, a sign, in base 16 a `0x` prefix, and digits of the
base. -/
theorem strtolScan_parts {base : Nat} {blanks sign pre digits : List Char} (hbase : base ≤ 16)
    (hb : ∀ c ∈ blanks, isSpace c) (hsign : sign = [] ∨ sign = ['+'] ∨ sign = ['-'])
    (hpre : pre = [] ∨ base = 16 ∧ (pre = ['0', 'x'] ∨ pre = ['0', 'X']))
    (hne : digits ≠ []) (hdig : ∀ c ∈ digits, isDigitIn base c) :
    strtolScan base (blanks ++ sign ++ pre ++ digits) =
      ⟨decide (sign = ['-']), valueIn base digits, []⟩ := by
  obtain ⟨d, ds, rfl⟩ := List.exists_cons_of_ne_nil hne
  have hd := not_special_of_isDigitIn16 (isDigitIn16_of_le hbase (hdig d (List.mem_cons_self _ _)))
  have htake : (d :: ds).takeWhile (isDigitIn base) = d :: ds := List.takeWhile_eq_self_iff.2 hdig
  have hdrop : (d :: ds).dropWhile (isDigitIn base) = [] := List.dropWhile_eq_nil_iff.2 hdig
  have hnone : afterHexPrefix base (d :: ds) = none :=
    afterHexPrefix_of_digits fun c hc => isDigitIn16_of_le hbase (hdig c hc)
  have hpre₃ : pre = [] ∨ pre = ['0', 'x'] ∨ pre = ['0', 'X'] := by
    rcases hpre with h | ⟨-, h⟩
    · exact .inl h
    · exact .inr h
  have hw : (blanks ++ sign ++ pre ++ d :: ds).dropWhile isSpace = sign ++ pre ++ d :: ds := by
    rw [List.append_assoc, List.append_assoc, List.dropWhile_append_of_pos hb]
    rcases hsign with rfl | rfl | rfl <;> rcases hpre₃ with rfl | rfl | rfl <;> simp +decide [hd]
  have hsign' : afterSign (sign ++ pre ++ d :: ds) = pre ++ d :: ds := by
    rcases hsign with rfl | rfl | rfl <;> rcases hpre₃ with rfl | rfl | rfl <;>
      simp [afterSign, hd]
  have hneg : isNegative (sign ++ pre ++ d :: ds) = decide (sign = ['-']) := by
    rcases hsign with rfl | rfl | rfl <;> rcases hpre₃ with rfl | rfl | rfl <;>
      simp [isNegative, hd]
  have hpre' : (afterHexPrefix base (pre ++ d :: ds)).getD (pre ++ d :: ds) = d :: ds := by
    rcases hpre with rfl | ⟨rfl, rfl | rfl⟩
    · rw [List.nil_append, hnone]; rfl
    all_goals simp [afterHexPrefix]
  simp only [strtolScan, hw, hsign', hneg, hpre', htake, hdrop, List.isEmpty_cons,
    Bool.false_eq_true, ite_false]

/-- The strings `strtoull` reads whole in base 16, with the sign and the digits they hold: C
blanks, an optional sign, an optional `0x` or `0X`, and at least one hexadecimal digit. -/
def IsHexNumeral (s : List Char) (negative : Bool) (digits : List Char) : Prop :=
  ∃ blanks sign pre, (∀ c ∈ blanks, isSpace c) ∧ (sign = [] ∨ sign = ['+'] ∨ sign = ['-']) ∧
    (pre = [] ∨ pre = ['0', 'x'] ∨ pre = ['0', 'X']) ∧ digits ≠ [] ∧
    (∀ c ∈ digits, isDigitIn 16 c) ∧ s = blanks ++ sign ++ pre ++ digits ∧
    negative = decide (sign = ['-'])

theorem strtolScan_hexNumeral {s : List Char} {negative : Bool} {digits : List Char}
    (h : IsHexNumeral s negative digits) :
    strtolScan 16 s = ⟨negative, valueIn 16 digits, []⟩ := by
  obtain ⟨blanks, sign, pre, hb, hsign, hpre, hne, hdig, rfl, rfl⟩ := h
  exact strtolScan_parts le_rfl hb hsign (hpre.imp_right (⟨rfl, ·⟩)) hne hdig

/-- The sign `strtol` reads, as the text it skips. -/
theorem afterSign_spec (w : List Char) :
    ∃ sign, (sign = [] ∨ sign = ['+'] ∨ sign = ['-']) ∧ w = sign ++ afterSign w ∧
      isNegative w = decide (sign = ['-']) := by
  unfold afterSign
  split
  · exact ⟨['-'], by simp, rfl, by simp [isNegative]⟩
  · exact ⟨['+'], by simp, rfl, by simp [isNegative]⟩
  · rename_i h₁ h₂
    refine ⟨[], by simp, rfl, ?_⟩
    cases w with
    | nil => rfl
    | cons c w => simpa [isNegative] using fun h => h₁ w (by rw [h])

/-- The `0x` prefix `strtol` skips in base 16, as the text it skips. -/
theorem afterHexPrefix_spec (t : List Char) :
    ∃ pre, (pre = [] ∨ pre = ['0', 'x'] ∨ pre = ['0', 'X']) ∧
      t = pre ++ (afterHexPrefix 16 t).getD t ∧ (pre = [] ↔ afterHexPrefix 16 t = none) := by
  unfold afterHexPrefix
  split
  · rename_i x s
    split_ifs with h
    · rcases h.2 with rfl | rfl
      · exact ⟨['0', 'x'], by simp, rfl, by simp⟩
      · exact ⟨['0', 'X'], by simp, rfl, by simp⟩
    · exact ⟨[], by simp, rfl, by simp⟩
  · exact ⟨[], by simp, rfl, by simp⟩

/-- A non-empty string is read whole by `strtoull` in base 16 exactly when it is a hexadecimal
numeral. -/
theorem strtoull_whole_iff {s : List Char} (hs : s ≠ []) :
    (strtoull s 16).2 = [] ↔ ∃ negative digits, IsHexNumeral s negative digits := by
  constructor
  · intro h
    simp only [strtoull, strtolScan] at h
    obtain ⟨sign, hsign, hw, hneg⟩ := afterSign_spec (s.dropWhile isSpace)
    obtain ⟨pre, hpre, ht, hnone⟩ := afterHexPrefix_spec (afterSign (s.dropWhile isSpace))
    set t := afterSign (s.dropWhile isSpace)
    set u := (afterHexPrefix 16 t).getD t
    split_ifs at h with hd hx
    · -- no digit after a `0x`: `*endptr` is the `x`
      have hpre' : pre ≠ [] := fun h' => by simp [hnone.1 h'] at hx
      rcases hpre with h' | rfl | rfl
      · exact absurd h' hpre'
      all_goals rw [ht] at h; simp at h
    · exact absurd h hs
    · have hall : ∀ c ∈ u, isDigitIn 16 c := List.dropWhile_eq_nil_iff.1 h
      refine ⟨_, u, s.takeWhile isSpace, sign, pre, fun c hc => List.mem_takeWhile_imp hc, hsign,
        hpre, fun hu => hd (by simp [hu]), hall, ?_, hneg⟩
      rw [List.append_assoc, List.append_assoc, ← ht, ← hw, List.takeWhile_append_dropWhile]
  · rintro ⟨negative, digits, h⟩
    simp [strtoull, strtolScan_hexNumeral h]

/-! ### What `atoi` reads, and non-numeric text -/

/-- A string that starts with neither a blank, nor a sign, nor a digit of the base holds no
numeral: the value is 0 and `*endptr` is the string itself. -/
theorem strtolScan_of_head {base : Nat} {c : Char} (s : List Char) (hs : isSpace c = false)
    (hplus : c ≠ '+') (hminus : c ≠ '-') (hd : isDigitIn base c = false) :
    strtolScan base (c :: s) = ⟨false, 0, c :: s⟩ := by
  have hsign : afterSign (c :: s) = c :: s := by
    unfold afterSign; split <;> simp_all
  have hpre : afterHexPrefix base (c :: s) = none := by
    by_cases hc : c = '0'
    · subst hc
      have : base ≠ 16 := by rintro rfl; exact absurd hd (by decide)
      cases s <;> simp [afterHexPrefix, this]
    · cases s <;> simp [afterHexPrefix, hc]
  simp [strtolScan, List.dropWhile_cons, hs, hsign, hpre, List.takeWhile_cons, hd]

/-- The narrowing of `atoi` keeps a value in `int`'s range. -/
theorem bmod_of_int_range {x : Int} (hlo : -2 ^ 31 ≤ x) (hhi : x < 2 ^ 31) :
    Int.bmod x (2 ^ 32) = x := by
  have hm : ((2 ^ 32 : Nat) : Int) = 4294967296 := rfl
  rw [Int.bmod_def, hm]
  split_ifs <;> omega

/-- The decimal numerals `atoi` reads whole, with their value: C blanks, an optional sign, and
at least one decimal digit. -/
def IsDecimalNumeral (s : List Char) (value : Int) : Prop :=
  ∃ blanks sign digits, (∀ c ∈ blanks, isSpace c) ∧ (sign = [] ∨ sign = ['+'] ∨ sign = ['-']) ∧
    digits ≠ [] ∧ (∀ c ∈ digits, c.isDigit) ∧ s = blanks ++ sign ++ digits ∧
    value = if sign = ['-'] then -(valueIn 10 digits : Int) else valueIn 10 digits

/-- `atoi` of a decimal numeral: its value saturated to a `long`, then narrowed to an `int`. -/
theorem atoi_decimalNumeral {s : List Char} {v : Int} (h : IsDecimalNumeral s v) :
    atoi s = Int.bmod (max (min v (2 ^ 63 - 1)) (-2 ^ 63)) (2 ^ 32) := by
  obtain ⟨blanks, sign, digits, hb, hsign, hne, hdig, rfl, rfl⟩ := h
  have hscan := @strtolScan_parts 10 blanks sign [] digits (by decide) hb hsign (.inl rfl) hne
    fun c hc => by rw [isDigitIn_ten]; exact hdig c hc
  rw [List.append_nil] at hscan
  rw [atoi, strtol, hscan]
  congr 1
  unfold Conversion.toLong
  split_ifs <;> simp_all <;> omega

/-- `atoi` of a decimal numeral that fits in an `int` is its value. -/
theorem atoi_of_decimalNumeral {s : List Char} {v : Int} (h : IsDecimalNumeral s v)
    (hlo : -2 ^ 31 ≤ v) (hhi : v < 2 ^ 31) : atoi s = v := by
  have hsat : max (min v (2 ^ 63 - 1)) (-2 ^ 63) = v := by omega
  rw [atoi_decimalNumeral h, hsat, bmod_of_int_range hlo hhi]

/-- `atoi` reads a string with no leading numeral as 0. -/
theorem atoi_of_head {c : Char} (s : List Char) (hs : isSpace c = false) (hplus : c ≠ '+')
    (hminus : c ≠ '-') (hd : c.isDigit = false) : atoi (c :: s) = 0 := by
  have hlong : Conversion.toLong ⟨false, 0, c :: s⟩ = 0 := by
    simp only [Conversion.toLong, Bool.false_eq_true, ite_false]
    omega
  rw [atoi, strtol, strtolScan_of_head s hs hplus hminus ((isDigitIn_ten c).trans hd), hlong]
  rfl

theorem toULL_lt (c : Conversion) : c.toULL < 2 ^ 64 := by
  unfold Conversion.toULL
  split_ifs <;> omega

/-- The value `strtoull` gives a hexadecimal numeral: the digits' value, saturated at
`ULLONG_MAX` and negated modulo `2^64` after a `-`. -/
theorem strtoull_of_hexNumeral {s : List Char} {negative : Bool} {digits : List Char}
    (h : IsHexNumeral s negative digits) :
    (strtoull s 16).1.toNat = Conversion.toULL ⟨negative, valueIn 16 digits, []⟩ := by
  rw [strtoull, strtolScan_hexNumeral h, UInt64.toNat_ofNat_of_lt (toULL_lt _)]

/-- `strtoul` in base 16 reads a string with no leading numeral as 0. -/
theorem strtoul_of_head {c : Char} (s : List Char) (hs : isSpace c = false) (hplus : c ≠ '+')
    (hminus : c ≠ '-') (hd : isDigitIn 16 c = false) : (strtoul (c :: s) 16).1 = 0 := by
  rw [strtoul, strtoull, strtolScan_of_head s hs hplus hminus hd]
  simp [Conversion.toULL]

end Minijail.Libc
