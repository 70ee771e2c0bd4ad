import Minijail.Proofs.Tail

/-!
# `Minijail.Proofs.Numerals`: the masks of `-c` and `-B`, and the ids of `-u` and `-g`

`use_caps` and `skip_securebits` read their mask with `strtoull (arg, &end, 16)` and check only
`*end`. By `strtoull_whole_iff`, a non-empty argument passes exactly when it is a hexadecimal
numeral: C blanks, a sign, a `0x`, and hexadecimal digits. The mask is then what `strtoull`
computes. It saturates at `2^64 - 1` and negates after a `-` (`hexMasks_read`).

`set_user` and `set_group` read a number with `strtod` and convert the `double` to an `int`. A
string of decimal digits below `2^31` gives exactly its value (`numericIds_read`). `strtod` reads
much more than digits, however. `-u 1.5` runs the program as uid 1.
-/

set_option autoImplicit false

namespace Minijail

open Libc

/-! ### The masks of `use_caps` and `skip_securebits` -/

section HexMask

variable (what : String) (call : UInt64 → JailCall) (env : Env) (j : Jail) {arg : String}

theorem hexMaskOption_of_hexNumeral {negative : Bool} {digits : List Char}
    (h : IsHexNumeral arg.data negative digits) :
    hexMaskOption what call env j arg = j.call env (call (strtoull arg.data 16).1) := by
  have hend : (strtoull arg.data 16).2 = [] := by simp [strtoull, strtolScan_hexNumeral h]
  simp [hexMaskOption, hend]

theorem hexMaskOption_of_not_hexNumeral (harg : arg.data ≠ [])
    (h : ¬ ∃ negative digits, IsHexNumeral arg.data negative digits) :
    hexMaskOption what call env j arg = .error (.error (what ++ ": '" ++ arg ++ "'\n")) :=
  if_pos fun hend => h ((strtoull_whole_iff harg).1 hend)

end HexMask

/-- `-c -1` restricts the capabilities to all of them: `strtoull` negates after a `-`. -/
theorem useCaps_negative_mask :
    useCaps sampleEnv [] "-1" = .ok [.useCaps 18446744073709551615] := by
  rfl

/-- `use_caps` and `skip_securebits` on a non-empty argument. A hexadecimal numeral gives the
mask `strtoull` computes, and any other argument is refused with the helper's message. -/
theorem hexMasks_read (env : Env) (j : Jail) (arg : String) (harg : arg.data ≠ []) :
    (∀ negative digits, IsHexNumeral arg.data negative digits →
      ∃ mask : UInt64,
        mask.toNat = (if 2 ^ 64 ≤ valueIn 16 digits then 2 ^ 64 - 1
          else if negative then (2 ^ 64 - valueIn 16 digits) % 2 ^ 64 else valueIn 16 digits) ∧
        useCaps env j arg = j.call env (.useCaps mask) ∧
        skipSecurebits env j arg = j.call env (.skipSettingSecurebits mask)) ∧
    ((¬ ∃ negative digits, IsHexNumeral arg.data negative digits) →
      useCaps env j arg = .error (.error ("Invalid cap set: '" ++ arg ++ "'\n")) ∧
      skipSecurebits env j arg = .error (.error ("Invalid securebit mask: '" ++ arg ++ "'\n"))) :=
  ⟨fun _ _ h => ⟨_, strtoull_of_hexNumeral h, hexMaskOption_of_hexNumeral _ _ env j h,
      hexMaskOption_of_hexNumeral _ _ env j h⟩,
    fun h => ⟨hexMaskOption_of_not_hexNumeral _ _ env j harg h,
      hexMaskOption_of_not_hexNumeral _ _ env j harg h⟩⟩

theorem hexMasks_read_caps :
    "0x10".data ≠ [] ∧ ∃ mask : UInt64, mask.toNat = 16 ∧
      useCaps sampleEnv [] "0x10" = Jail.call sampleEnv [] (.useCaps mask) := by
  obtain ⟨mask, hmask, hcaps, -⟩ := (hexMasks_read sampleEnv [] "0x10" (by decide)).1 false
    ['1', '0'] ⟨[], [], ['0', 'x'], by simp, by simp, by simp, by simp, by decide, rfl, rfl⟩
  exact ⟨by decide, mask, hmask.trans (by decide), hcaps⟩

/-! ### The ids of `set_user` and `set_group` -/

/-- `-u 1.5`: `strtod` reads all of `1.5`, so `set_user` takes the numeric path, and the cast
to `int` truncates the value to uid 1. -/
theorem setUser_reads_fraction :
    setUser sampleEnv [] "1.5" 0 = .ok ([.changeUid 1], 1, 0) := by
  have hs : strtod "1.5".data = ⟨false, .finite 15 10 (-1), []⟩ := by decide
  have hfloor : ⌊(3 / 2 : ℚ)⌋₊ = 1 := by
    rw [Nat.floor_eq_iff (by norm_num)]
    norm_num
  have hlog : Int.log 2 (Numeral.value 15 10 (-1)) = 0 := by
    rw [Numeral.value, Int.log_of_one_le_right _ (by norm_num)]
    norm_num [hfloor]
  have hdiv : Numeral.value 15 10 (-1) / 2 ^ (0 - 52 : ℤ) = ((3 * 2 ^ 51 : ℤ) : ℚ) := by
    norm_num [Numeral.value]
  have hround : roundToDouble (Numeral.value 15 10 (-1)) = 3 / 2 := by
    rw [roundToDouble, if_neg (by norm_num [Numeral.value])]
    simp only [hlog, hdiv, roundHalfEven_intCast]
    norm_num
  have hint : StrtodResult.toInt sampleEnv.intCast ⟨false, .finite 15 10 (-1), []⟩ = 1 := by
    simp only [StrtodResult.toInt, hround, hfloor]
    rfl
  simp only [setUser, hs, hint]
  rfl

/-- `set_user` and `set_group`. A non-empty string that `strtod` reads whole is an id. For a
string of decimal digits below `2^31` exactly its value reaches the library and `parse_args`. A
string `strtod` does not read whole, or the empty string, is a name: refused when the lookup
finds none, and otherwise passed to `minijail_change_user` (`minijail_change_group`), with the
uid and gid (the gid) the lookup found written back to `parse_args`. -/
theorem numericIds_read (env : Env) (j : Jail) (arg : String) (outGid : UInt32) :
    ((strtod arg.data).endptr = [] → arg.data ≠ [] →
      (∃ uid, setUser env j arg outGid =
        (j.call env (.changeUid uid)).map (fun j => (j, uid, outGid))) ∧
      (∃ gid, setGroup env j arg = (j.call env (.changeGid gid)).map (fun j => (j, gid)))) ∧
    (arg.data ≠ [] → (∀ c ∈ arg.data, c.isDigit) → valueIn 10 arg.data < 2 ^ 31 →
      setUser env j arg outGid =
        (j.call env (.changeUid (UInt32.ofNat (valueIn 10 arg.data)))).map
          (fun j => (j, UInt32.ofNat (valueIn 10 arg.data), outGid)) ∧
      setGroup env j arg =
        (j.call env (.changeGid (UInt32.ofNat (valueIn 10 arg.data)))).map
          (fun j => (j, UInt32.ofNat (valueIn 10 arg.data)))) ∧
    ((strtod arg.data).endptr ≠ [] ∨ arg.data = [] →
      (env.lookupUser arg = none →
        setUser env j arg outGid = .error (.error ("Bad user: '" ++ arg ++ "'\n"))) ∧
      (∀ uid gid, env.lookupUser arg = some (uid, gid) →
        setUser env j arg outGid =
          (j.check env (.changeUser arg) ("Bad user: '" ++ arg ++ "'\n")).map
            (fun j => (j, uid, gid))) ∧
      (env.lookupGroup arg = none →
        setGroup env j arg = .error (.error ("Bad group: '" ++ arg ++ "'\n"))) ∧
      (∀ gid, env.lookupGroup arg = some gid →
        setGroup env j arg =
          (j.check env (.changeGroup arg) ("Bad group: '" ++ arg ++ "'\n")).map
            (fun j => (j, gid)))) := by
  refine ⟨fun hend hne => ⟨⟨_, if_pos ⟨hend, hne⟩⟩, ⟨_, if_pos ⟨hend, hne⟩⟩⟩, ?_, ?_⟩
  · intro hne hdig hv
    have hs := strtod_digits hne hdig
    have hid : toUInt32 ((strtod arg.data).toInt env.intCast) =
        UInt32.ofNat (valueIn 10 arg.data) := by
      rw [hs, toInt_of_nat _ hv, toUInt32_natCast (by omega)]
    have hcond : (strtod arg.data).endptr = [] ∧ arg.data ≠ [] := ⟨by rw [hs], hne⟩
    simp only [setUser, setGroup, if_pos hcond, hid, and_self]
  · intro hname
    have hcond : ¬ ((strtod arg.data).endptr = [] ∧ arg.data ≠ []) := by tauto
    exact ⟨fun hl => by simp only [setUser, if_neg hcond, hl],
      fun uid gid hl => by simp only [setUser, if_neg hcond, hl],
      fun hl => by simp only [setGroup, if_neg hcond, hl],
      fun gid hl => by simp only [setGroup, if_neg hcond, hl]⟩

end Minijail
