import Minijail.Libc.Strtod

/-!
# `Minijail.Libc.StrtodText`: the strings `strtod` reads whole

`set_user` and `set_group` take the numeric path for a non-empty argument that `strtod` reads to
its end (`*end == '\0'`), and look every other argument up as a name. This module says which
strings those are, as a grammar (`IsStrtodNumeral`): C blanks, an optional sign, then a number
(`IsNumberText`) of one of five kinds.

* A decimal numeral: digits with an optional `.` and fraction, at least one digit, then an
  optional exponent `e` or `E` with a sign and decimal digits (`IsSignificandText`,
  `IsExponentText`).
* A hexadecimal numeral after `0x` or `0X`, with an optional binary exponent `p` or `P` in
  decimal.
* `inf` or `infinity`, and `nan`, alone or with a bracket of letters, digits and `_`, all in any
  case.

`strtod_whole_iff` is the characterisation. Its two halves are `isNumberText_of_readNumeral`
(what `readNumeral` reads to the end is a number) and `readNumeral_of_isNumberText` (it reads a
number to the end), one lemma per kind of number. So `-u 1e3`, `-u 0x3e8`, `-u " +1000"`,
`-u inf` and `-u NaN(x)` all take the numeric path, and a user named `nan` or `Inf` cannot be
named on the command line.

A letter's case is `Char.toLower`, as in the code. `toLower_eq_imp` reduces a fact about every
character with a given lower case to the 26 upper-case letters, which `decide` checks.
-/

set_option autoImplicit false

namespace Minijail.Libc

/-! ### The grammar -/

/-- The text of a significand whose digits `isDig` names: digits, then optionally a `.` and more
digits, with at least one digit in all. -/
def IsSignificandText (isDig : Char → Bool) (s : List Char) : Prop :=
  ∃ int frac, (∀ c ∈ int, isDig c) ∧ (∀ c ∈ frac, isDig c) ∧
    (s = int ∧ int ≠ [] ∨ s = int ++ '.' :: frac ∧ int ++ frac ≠ [])

/-- The text of an exponent after the marker `marker`, given in lower case: the marker in either
case, an optional sign, and decimal digits. -/
def IsExponentText (marker : Char) (s : List Char) : Prop :=
  ∃ c sign digits, c.toLower = marker ∧ (sign = [] ∨ sign = ['+'] ∨ sign = ['-']) ∧
    digits ≠ [] ∧ (∀ d ∈ digits, d.isDigit) ∧ s = c :: (sign ++ digits)

/-- The texts `strtod` reads whole after the blanks and the sign. -/
inductive IsNumberText : List Char → Prop
  /-- A decimal numeral, with an optional exponent. -/
  | decimal {sig exp : List Char} : IsSignificandText Char.isDigit sig →
      (exp = [] ∨ IsExponentText 'e' exp) → IsNumberText (sig ++ exp)
  /-- A hexadecimal numeral after `0x` or `0X`, with an optional binary exponent. -/
  | hex {x : Char} {sig exp : List Char} : x = 'x' ∨ x = 'X' →
      IsSignificandText (isDigitIn 16) sig → (exp = [] ∨ IsExponentText 'p' exp) →
      IsNumberText ('0' :: x :: (sig ++ exp))
  /-- `inf` or `infinity`, in any case. -/
  | infinity {s : List Char} :
      s.map Char.toLower = "inf".data ∨ s.map Char.toLower = "infinity".data → IsNumberText s
  /-- `nan`, in any case. -/
  | nan {s : List Char} : s.map Char.toLower = "nan".data → IsNumberText s
  /-- `nan`, in any case, then letters, digits and `_` in brackets. -/
  | nanChars {s chars : List Char} : s.map Char.toLower = "nan".data →
      (∀ c ∈ chars, isNanChar c) → IsNumberText (s ++ '(' :: (chars ++ [')']))

/-- The strings `strtod` reads whole: C blanks, an optional sign, and a number. -/
def IsStrtodNumeral (s : List Char) : Prop :=
  ∃ blanks sign t, (∀ c ∈ blanks, isSpace c) ∧ (sign = [] ∨ sign = ['+'] ∨ sign = ['-']) ∧
    IsNumberText t ∧ s = blanks ++ sign ++ t

/-! ### Characters -/

/-- A decimal digit is neither a blank, nor a sign, nor an `x`. -/
theorem not_special_of_isDigit {c : Char} (h : c.isDigit) :
    isSpace c = false ∧ c ≠ '+' ∧ c ≠ '-' ∧ c ≠ 'x' ∧ c ≠ 'X' :=
  not_special_of_isDigitIn16 (isDigitIn16_of_le (by decide) ((isDigitIn_ten c).trans h))

/-- `Char.toLower` changes only the 26 upper-case letters. -/
theorem toLower_cases (c : Char) : c.toLower = c ∨ ∃ k < 26, c = Char.ofNat (65 + k) := by
  unfold Char.toLower
  dsimp only
  split_ifs with h
  · refine .inr ⟨c.toNat - 65, by omega, ?_⟩
    rw [show 65 + (c.toNat - 65) = c.toNat by omega, Char.ofNat_toNat]
  · exact .inl rfl

/-- A decidable property of every character whose lower case is `l`: it holds of `l`, and of the
upper-case letters whose lower case is `l`. -/
theorem toLower_eq_imp (P : Char → Prop) [DecidablePred P] {c l : Char} (hl : P l)
    (hupper : ∀ k < 26, (Char.ofNat (65 + k)).toLower = l → P (Char.ofNat (65 + k)))
    (h : c.toLower = l) : P c := by
  rcases toLower_cases c with hc | ⟨k, hk, rfl⟩
  · rw [← hc, h]
    exact hl
  · exact hupper k hk h

/-- The first letter of `inf`, `infinity` and `nan`, in any case, is neither a digit, nor a `.`,
nor a blank, nor a sign. -/
theorem not_special_of_letter {c : Char} (hc : c.toLower = 'i' ∨ c.toLower = 'n') :
    c.isDigit = false ∧ c ≠ '.' ∧ isSpace c = false ∧ c ≠ '+' ∧ c ≠ '-' := by
  rcases hc with hc | hc <;>
    exact toLower_eq_imp
      (fun c => c.isDigit = false ∧ c ≠ '.' ∧ isSpace c = false ∧ c ≠ '+' ∧ c ≠ '-')
      (by decide) (by decide) hc

/-- `startsWithWord w t`: `w` starts `t` in lower case. -/
theorem startsWithWord_iff (w t : List Char) :
    startsWithWord w t ↔ w <+: t.map Char.toLower := by
  rw [startsWithWord, Bool.and_eq_true, decide_eq_true_eq, beq_iff_eq, List.prefix_iff_eq_take,
    ← List.map_take]
  constructor
  · rintro ⟨-, h⟩
    exact h.symm
  · intro h
    refine ⟨?_, h.symm⟩
    have := congrArg List.length h
    simp only [List.length_map, List.length_take] at this
    omega

/-- A word that `startsWithWord` found and that ends the text is the whole text, in lower
case. -/
theorem startsWithWord_whole {w t : List Char} (h : startsWithWord w t)
    (hd : t.drop w.length = []) : t.map Char.toLower = w := by
  rw [startsWithWord_iff, List.prefix_iff_eq_take] at h
  rw [h, List.take_of_length_le]
  simpa using hd

theorem prefix_append_iff_of_length {w v x : List Char} (hlen : w.length = v.length) :
    w <+: v ++ x ↔ w = v := by
  refine ⟨fun h => ?_, fun h => h ▸ List.prefix_append _ _⟩
  rw [List.prefix_iff_eq_take, List.take_left' hlen.symm] at h
  exact h

/-! ### Exponents and significands -/

/-- `readExponent` reads to the end exactly an exponent. -/
theorem readExponent_whole_iff (marker : Char) (s : List Char) :
    (∃ e, readExponent marker s = some (e, [])) ↔ IsExponentText marker s := by
  constructor
  · rintro ⟨e, h⟩
    rcases s with _ | ⟨c, s⟩
    · cases h
    rw [readExponent] at h
    split at h
    · rename_i hc
      obtain ⟨sign, hsign, hs, -⟩ := afterSign_spec s
      simp only [Option.some.injEq, Prod.mk.injEq] at h
      have hall := List.dropWhile_eq_nil_iff.1 h.2
      refine ⟨c, sign, afterSign s, hc.1, hsign, ?_, fun d hd => hall d hd, by rw [← hs]⟩
      intro hnil
      simp [hnil] at hc
    · cases h
  · rintro ⟨c, sign, digits, hc, hsign, hne, hdig, rfl⟩
    obtain ⟨d, ds, rfl⟩ := List.exists_cons_of_ne_nil hne
    have hd := not_special_of_isDigit (hdig d (List.mem_cons_self _ _))
    have hafter : afterSign (sign ++ d :: ds) = d :: ds := by
      rcases hsign with rfl | rfl | rfl <;> simp [afterSign, hd.2.1, hd.2.2.1]
    simp [readExponent, hafter, hc, List.takeWhile_eq_self_iff.2 hdig,
      List.dropWhile_eq_nil_iff.2 hdig]

/-- A finite numeral ends the text exactly when its significand is followed by nothing or by an
exponent. -/
theorem finiteNumeral_whole_iff (base radix width : Nat) (marker : Char)
    (int frac rest : List Char) :
    (finiteNumeral base radix width marker (int, frac, rest)).2 = [] ↔
      rest = [] ∨ IsExponentText marker rest := by
  rw [← readExponent_whole_iff]
  simp only [finiteNumeral]
  rcases h : readExponent marker rest with _ | ⟨e, r⟩
  · simp
  · simp only [Option.getD_some, Option.some.injEq, Prod.mk.injEq, exists_eq_left']
    refine ⟨.inr, ?_⟩
    rintro (rfl | hr)
    · cases h
    · exact hr

/-- What `readSignificand` read is the text of a significand, and the rest follows it. -/
theorem readSignificand_eq_some {isDig : Char → Bool} {s int frac rest : List Char}
    (h : readSignificand isDig s = some (int, frac, rest)) :
    ∃ sig, s = sig ++ rest ∧ IsSignificandText isDig sig := by
  unfold readSignificand at h
  dsimp only at h
  have hs : s = s.takeWhile isDig ++ s.dropWhile isDig :=
    (List.takeWhile_append_dropWhile _ _).symm
  have hint : ∀ c ∈ s.takeWhile isDig, isDig c := fun c hc => List.mem_takeWhile_imp hc
  generalize s.takeWhile isDig = int₀ at h hs hint
  generalize s.dropWhile isDig = s₁ at h hs
  rcases s₁ with _ | ⟨c, s₂⟩
  · -- integer digits only, to the end
    simp only [List.isEmpty_nil, and_true, Option.ite_none_left_eq_some, Option.some.injEq,
      Prod.mk.injEq, List.isEmpty_eq_true] at h
    obtain ⟨hne, rfl, -, rfl⟩ := h
    exact ⟨int₀, hs, int₀, [], hint, nofun, .inl ⟨rfl, hne⟩⟩
  by_cases hc : c = '.'
  · -- a `.` and fraction digits
    subst hc
    simp only [List.isEmpty_eq_true, List.takeWhile_eq_nil_iff, List.get_eq_getElem,
      Bool.not_eq_true, Option.ite_none_left_eq_some, not_and, not_forall, Bool.not_eq_false,
      Option.some.injEq, Prod.mk.injEq] at h
    obtain ⟨hne, rfl, rfl, rfl⟩ := h
    refine ⟨int₀ ++ '.' :: s₂.takeWhile isDig, ?_, int₀, s₂.takeWhile isDig, hint,
      fun c hc => List.mem_takeWhile_imp hc, .inr ⟨rfl, ?_⟩⟩
    · rw [hs, List.append_assoc, List.cons_append, List.takeWhile_append_dropWhile]
    · intro hnil
      obtain ⟨h₁, h₂⟩ := List.append_eq_nil.1 hnil
      obtain ⟨hlen, hd⟩ := hne h₁
      rcases s₂ with _ | ⟨d, s₂⟩
      · simp at hlen
      · rw [List.getElem_cons_zero] at hd
        simp [List.takeWhile_cons, hd] at h₂
  · -- integer digits, then a character that is not a `.`
    simp only [List.cons.injEq, hc, false_and, imp_self, implies_true, List.isEmpty_nil, and_true,
      Option.ite_none_left_eq_some, Option.some.injEq, Prod.mk.injEq, List.isEmpty_eq_true] at h
    obtain ⟨hne, rfl, -, rfl⟩ := h
    exact ⟨int₀, hs, int₀, [], hint, nofun, .inl ⟨rfl, hne⟩⟩

/-- Digits, then a text that starts with no digit: `takeWhile` and `dropWhile` cut between
them. -/
theorem takeWhile_dropWhile_append {p : Char → Bool} {xs ys : List Char} (hxs : ∀ x ∈ xs, p x)
    (hys : ∀ y ∈ ys.head?, p y = false) :
    (xs ++ ys).takeWhile p = xs ∧ (xs ++ ys).dropWhile p = ys := by
  rw [List.takeWhile_append_of_pos hxs, List.dropWhile_append_of_pos hxs]
  rcases ys with _ | ⟨y, ys⟩
  · simp
  · simp [hys y rfl]

/-- `readSignificand` reads a significand up to a text that starts with neither a digit nor a
`.`. -/
theorem readSignificand_append {isDig : Char → Bool} {sig rest : List Char}
    (hdot : isDig '.' = false) (hsig : IsSignificandText isDig sig)
    (hrest : ∀ c ∈ rest.head?, isDig c = false ∧ c ≠ '.') :
    ∃ int frac, readSignificand isDig (sig ++ rest) = some (int, frac, rest) := by
  have hrest' : ∀ c ∈ rest.head?, isDig c = false := fun c hc => (hrest c hc).1
  obtain ⟨int, frac, hint, hfrac, ⟨hs, hne⟩ | ⟨hs, hne⟩⟩ := hsig <;> subst hs
  · -- integer digits only: the text after them has no `.`
    obtain ⟨htake, hdrop⟩ := takeWhile_dropWhile_append hint hrest'
    refine ⟨sig, [], ?_⟩
    unfold readSignificand
    rw [htake, hdrop]
    rcases rest with _ | ⟨c, rest⟩
    · simp [hne]
    · simp [hne, (hrest c rfl).2]
  · -- a `.` and fraction digits
    have hdot' : ∀ c ∈ ('.' :: (frac ++ rest)).head?, isDig c = false := by
      rintro c ⟨⟩
      exact hdot
    obtain ⟨htake, hdrop⟩ := takeWhile_dropWhile_append hint hdot'
    obtain ⟨htake₂, hdrop₂⟩ := takeWhile_dropWhile_append hfrac hrest'
    refine ⟨int, frac, ?_⟩
    unfold readSignificand
    rw [List.append_assoc, List.cons_append, htake, hdrop]
    simpa [htake₂, hdrop₂] using hne

theorem readSignificand_of_head {isDig : Char → Bool} {c : Char} (s : List Char)
    (hd : isDig c = false) (hc : c ≠ '.') : readSignificand isDig (c :: s) = none := by
  simp [readSignificand, hd, hc]

theorem IsSignificandText.mem {isDig : Char → Bool} {sig : List Char}
    (h : IsSignificandText isDig sig) : ∀ c ∈ sig, isDig c ∨ c = '.' := by
  obtain ⟨int, frac, hint, hfrac, ⟨rfl, -⟩ | ⟨rfl, -⟩⟩ := h
  · exact fun c hc => .inl (hint c hc)
  · intro c hc
    simp only [List.mem_append, List.mem_cons] at hc
    rcases hc with hc | rfl | hc
    exacts [.inl (hint c hc), .inr rfl, .inl (hfrac c hc)]

theorem IsExponentText.mem {marker : Char} {exp : List Char} (h : IsExponentText marker exp) :
    ∀ c ∈ exp, c.toLower = marker ∨ c = '+' ∨ c = '-' ∨ c.isDigit := by
  obtain ⟨c, sign, digits, hc, hsign, -, hdig, rfl⟩ := h
  intro d hd
  simp only [List.mem_cons, List.mem_append] at hd
  rcases hd with rfl | hd | hd
  · exact .inl hc
  · rcases hsign with rfl | rfl | rfl <;> simp_all
  · exact .inr (.inr (.inr (hdig d hd)))

/-- The text after a significand: nothing, or an exponent whose marker is neither a digit nor a
`.`. -/
theorem exponent_head {isDig : Char → Bool} {marker : Char} {exp : List Char}
    (hmarker : ∀ c : Char, c.toLower = marker → isDig c = false ∧ c ≠ '.')
    (h : exp = [] ∨ IsExponentText marker exp) : ∀ c ∈ exp.head?, isDig c = false ∧ c ≠ '.' := by
  rcases h with rfl | ⟨c, sign, digits, hc, -, -, -, rfl⟩
  · nofun
  · rintro _ ⟨⟩
    exact hmarker c hc

/-! ### What `readNumeral` reads to the end -/

/-- A decimal significand followed by nothing or by an exponent. -/
theorem isNumberText_of_decimal {t : List Char} {sig : List Char × List Char × List Char}
    (hsig : readSignificand Char.isDigit t = some sig) (h : (finiteNumeral 10 10 1 'e' sig).2 = []) :
    IsNumberText t := by
  obtain ⟨int, frac, rest⟩ := sig
  obtain ⟨text, rfl, htext⟩ := readSignificand_eq_some hsig
  exact .decimal htext ((finiteNumeral_whole_iff _ _ _ _ int frac rest).1 h)

/-- What `readNumeral` reads to the end is a number. -/
theorem isNumberText_of_readNumeral {t : List Char} {n : Numeral}
    (h : readNumeral t = some (n, [])) : IsNumberText t := by
  unfold readNumeral at h
  split at h
  · rename_i x s
    split_ifs at h with hx
    · -- `0x`: a hexadecimal significand, or the numeral `0` before the `x`
      split at h
      · rename_i sig hsig
        obtain ⟨int, frac, rest⟩ := sig
        obtain ⟨text, rfl, htext⟩ := readSignificand_eq_some hsig
        simp only [Option.some.injEq] at h
        exact .hex hx htext ((finiteNumeral_whole_iff _ _ _ _ int frac rest).1 (by rw [h]))
      · cases h
    · -- a decimal numeral that starts with `0`
      obtain ⟨sig, hsig, h⟩ := Option.map_eq_some'.1 h
      exact isNumberText_of_decimal hsig (by rw [h])
  · split at h
    · -- a decimal numeral
      rename_i sig hsig
      simp only [Option.some.injEq] at h
      exact isNumberText_of_decimal hsig (by rw [h])
    · split_ifs at h with hinf h8 hnan
      · simp only [Option.some.injEq, Prod.mk.injEq] at h
        exact .infinity (.inr (startsWithWord_whole h8 h.2))
      · simp only [Option.some.injEq, Prod.mk.injEq] at h
        exact .infinity (.inl (startsWithWord_whole hinf h.2))
      · -- `nan`, with or without the brackets
        have hlow : (t.take 3).map Char.toLower = "nan".data := by
          rw [List.map_take]
          exact (List.prefix_iff_eq_take.1 ((startsWithWord_iff _ _).1 hnan)).symm
        dsimp only at h
        split at h
        · rename_i s' hs
          split at h
          · rename_i rest hrest
            simp only [Option.some.injEq, Prod.mk.injEq] at h
            obtain ⟨-, rfl⟩ := h
            have hs' : s' = s'.takeWhile isNanChar ++ [')'] := by
              rw [← hrest, List.takeWhile_append_dropWhile]
            rw [← List.take_append_drop 3 t, hs, hs']
            exact .nanChars hlow fun c hc => List.mem_takeWhile_imp hc
          · simp [hs] at h
        · simp only [Option.some.injEq, Prod.mk.injEq] at h
          exact .nan (startsWithWord_whole hnan h.2)

/-! ### `readNumeral` reads a number to its end -/

/-- A numeral that ends the string: the value and an empty rest. -/
theorem some_whole {r : Numeral × List Char} (h : r.2 = []) : ∃ n, some r = some (n, []) :=
  ⟨r.1, congrArg some (Prod.ext rfl h)⟩

theorem readNumeral_decimal {sig exp : List Char} (hsig : IsSignificandText Char.isDigit sig)
    (hexp : exp = [] ∨ IsExponentText 'e' exp) :
    ∃ n, readNumeral (sig ++ exp) = some (n, []) := by
  obtain ⟨int, frac, hread⟩ := readSignificand_append (by decide) hsig
    (exponent_head (fun c hc => toLower_eq_imp (fun c => c.isDigit = false ∧ c ≠ '.')
      (by decide) (by decide) hc) hexp)
  have hfin := (finiteNumeral_whole_iff 10 10 1 'e' int frac exp).2 hexp
  -- no character of a decimal numeral is an `x`, so `readNumeral` does not take it for hexadecimal
  have hnox : ∀ c ∈ sig ++ exp, ¬ (c = 'x' ∨ c = 'X') := by
    intro c hc
    rcases List.mem_append.1 hc with hc | hc
    · rcases hsig.mem c hc with hd | rfl
      · exact not_or.2 (not_special_of_isDigit hd).2.2.2
      · decide
    · rcases IsExponentText.mem (hexp.resolve_left (by rintro rfl; cases hc)) c hc
        with he | rfl | rfl | hd
      · exact toLower_eq_imp (fun c => ¬ (c = 'x' ∨ c = 'X')) (by decide) (by decide) he
      · decide
      · decide
      · exact not_or.2 (not_special_of_isDigit hd).2.2.2
  unfold readNumeral
  split
  · rename_i x s heq
    rw [if_neg (hnox x (by rw [heq]; simp)), hread, Option.map_some']
    exact some_whole hfin
  · rw [hread]
    exact some_whole hfin

theorem readNumeral_hex {x : Char} {sig exp : List Char} (hx : x = 'x' ∨ x = 'X')
    (hsig : IsSignificandText (isDigitIn 16) sig) (hexp : exp = [] ∨ IsExponentText 'p' exp) :
    ∃ n, readNumeral ('0' :: x :: (sig ++ exp)) = some (n, []) := by
  obtain ⟨int, frac, hread⟩ := readSignificand_append (by decide) hsig
    (exponent_head (fun c hc => toLower_eq_imp (fun c => isDigitIn 16 c = false ∧ c ≠ '.')
      (by decide) (by decide) hc) hexp)
  simp only [readNumeral, if_pos hx, hread]
  exact some_whole ((finiteNumeral_whole_iff 16 2 4 'p' int frac exp).2 hexp)

theorem readNumeral_infinity {t : List Char}
    (hlow : t.map Char.toLower = "inf".data ∨ t.map Char.toLower = "infinity".data) :
    ∃ n, readNumeral t = some (n, []) := by
  rcases t with _ | ⟨c, s⟩
  · rcases hlow with h | h <;> cases h
  have hc : c.toLower = 'i' := by rcases hlow with h | h <;> exact (List.cons.inj h).1
  obtain ⟨hd, hdot, -⟩ := not_special_of_letter (.inl hc)
  unfold readNumeral
  split
  · rename_i x s' heq
    obtain ⟨rfl, -⟩ := List.cons.inj heq
    exact absurd hc (by decide)
  rw [readSignificand_of_head _ hd hdot]
  dsimp only
  rw [if_pos ((startsWithWord_iff _ _).2
    (hlow.elim (fun h => h ▸ List.prefix_refl _) (fun h => h ▸ by decide)))]
  refine some_whole ?_
  rcases hlow with h | h
  · rw [if_neg (by rw [startsWithWord_iff, h]; decide)]
    have hlen : s.length = 2 := by simpa using congrArg List.length h
    simp [hlen]
  · rw [if_pos ((startsWithWord_iff _ _).2 (h ▸ List.prefix_refl _))]
    have hlen : s.length = 7 := by simpa using congrArg List.length h
    simp [hlen]

theorem readNumeral_nan {t : List Char} (hlow : t.map Char.toLower = "nan".data) :
    ∃ n, readNumeral t = some (n, []) := by
  rcases t with _ | ⟨c, s⟩
  · cases hlow
  have hc : c.toLower = 'n' := (List.cons.inj hlow).1
  obtain ⟨hd, hdot, -⟩ := not_special_of_letter (.inr hc)
  have hlen : s.length = 2 := by simpa using congrArg List.length hlow
  unfold readNumeral
  split
  · rename_i x s' heq
    obtain ⟨rfl, -⟩ := List.cons.inj heq
    exact absurd hc (by decide)
  rw [readSignificand_of_head _ hd hdot]
  dsimp only
  rw [if_neg (by rw [startsWithWord_iff, hlow]; decide),
    if_pos ((startsWithWord_iff _ _).2 (hlow ▸ List.prefix_refl _))]
  simp [List.drop_eq_nil_of_le (show s.length ≤ 2 by omega)]

theorem readNumeral_nanChars {s chars : List Char} (hlow : s.map Char.toLower = "nan".data)
    (hchars : ∀ c ∈ chars, isNanChar c) :
    ∃ n, readNumeral (s ++ '(' :: (chars ++ [')'])) = some (n, []) := by
  rcases s with _ | ⟨c, s⟩
  · cases hlow
  have hc : c.toLower = 'n' := (List.cons.inj hlow).1
  obtain ⟨hd, hdot, -⟩ := not_special_of_letter (.inr hc)
  have hlen : (c :: s).length = 3 := by simpa using congrArg List.length hlow
  -- the words `strtod` looks for, against the first three letters
  have hpre : ∀ w : List Char, w.length = 3 →
      (w <+: ((c :: s) ++ '(' :: (chars ++ [')'])).map Char.toLower ↔ w = "nan".data) := by
    intro w hw
    rw [List.map_append, hlow]
    exact prefix_append_iff_of_length hw
  unfold readNumeral
  split
  · rename_i x s' heq
    obtain ⟨rfl, -⟩ := List.cons.inj heq
    exact absurd hc (by decide)
  rw [List.cons_append, readSignificand_of_head _ hd hdot, ← List.cons_append]
  dsimp only
  rw [if_neg (by rw [startsWithWord_iff, hpre "inf".data rfl]; decide),
    if_pos (by rw [startsWithWord_iff, hpre "nan".data rfl]), List.drop_left' hlen]
  have hrest : (chars ++ [')']).dropWhile isNanChar = [')'] := by
    rw [List.dropWhile_append_of_pos hchars]
    decide
  simp [hrest]

/-- `readNumeral` reads a number to its end. -/
theorem readNumeral_of_isNumberText {t : List Char} (h : IsNumberText t) :
    ∃ n, readNumeral t = some (n, []) := by
  cases h with
  | decimal hsig hexp => exact readNumeral_decimal hsig hexp
  | hex hx hsig hexp => exact readNumeral_hex hx hsig hexp
  | infinity hlow => exact readNumeral_infinity hlow
  | nan hlow => exact readNumeral_nan hlow
  | nanChars hlow hchars => exact readNumeral_nanChars hlow hchars

/-! ### Whole strings -/

/-- A number starts with a character that is neither a blank nor a sign. -/
theorem IsNumberText.head {t : List Char} (h : IsNumberText t) :
    ∃ c s, t = c :: s ∧ isSpace c = false ∧ c ≠ '+' ∧ c ≠ '-' := by
  cases h with
  | @decimal sig exp hsig _ =>
    obtain ⟨c, r, hcr⟩ : ∃ c r, sig = c :: r := by
      obtain ⟨int, frac, -, -, ⟨rfl, hne⟩ | ⟨rfl, -⟩⟩ := hsig
      · exact List.exists_cons_of_ne_nil hne
      · rcases int with _ | ⟨c, int⟩ <;> exact ⟨_, _, rfl⟩
    refine ⟨c, r ++ exp, by rw [hcr, List.cons_append], ?_⟩
    rcases hsig.mem c (by rw [hcr]; exact List.mem_cons_self _ _) with hd | rfl
    · obtain ⟨hsp, hplus, hminus, -⟩ := not_special_of_isDigit hd
      exact ⟨hsp, hplus, hminus⟩
    · decide
  | hex => exact ⟨_, _, rfl, by decide⟩
  | @infinity t hlow =>
    rcases t with _ | ⟨c, s⟩
    · rcases hlow with h | h <;> cases h
    have hc : c.toLower = 'i' := by rcases hlow with h | h <;> exact (List.cons.inj h).1
    exact ⟨c, s, rfl, (not_special_of_letter (.inl hc)).2.2⟩
  | @nan t hlow =>
    rcases t with _ | ⟨c, s⟩
    · cases hlow
    exact ⟨c, s, rfl, (not_special_of_letter (.inr (List.cons.inj hlow).1)).2.2⟩
  | @nanChars s chars hlow _ =>
    rcases s with _ | ⟨c, s⟩
    · cases hlow
    exact ⟨c, _, rfl, (not_special_of_letter (.inr (List.cons.inj hlow).1)).2.2⟩

/-- The strings `set_user` and `set_group` read as a number, the non-empty strings that `strtod`
reads to the end, are the numerals: blanks, a sign, and a decimal or hexadecimal numeral, `inf`,
`infinity` or `nan`. -/
theorem strtod_whole_iff (s : List Char) :
    (strtod s).endptr = [] ∧ s ≠ [] ↔ IsStrtodNumeral s := by
  constructor
  · rintro ⟨h, hne⟩
    unfold strtod at h
    dsimp only at h
    split at h
    · rename_i n rest hread
      obtain ⟨sign, hsign, hw, -⟩ := afterSign_spec (s.dropWhile isSpace)
      refine ⟨s.takeWhile isSpace, sign, _, fun c hc => List.mem_takeWhile_imp hc, hsign,
        isNumberText_of_readNumeral ((show rest = [] from h) ▸ hread), ?_⟩
      rw [List.append_assoc, ← hw, List.takeWhile_append_dropWhile]
    · exact absurd h hne
  · rintro ⟨blanks, sign, t, hb, hsign, ht, rfl⟩
    obtain ⟨c, r, rfl, hsp, hplus, hminus⟩ := ht.head
    obtain ⟨n, hread⟩ := readNumeral_of_isNumberText ht
    -- the blanks go, and the sign is read
    have hw : (blanks ++ sign ++ c :: r).dropWhile isSpace = sign ++ c :: r := by
      rw [List.append_assoc, List.dropWhile_append_of_pos hb]
      rcases hsign with rfl | rfl | rfl
      · simp [List.dropWhile_cons, hsp]
      all_goals exact List.dropWhile_cons_of_neg (by decide)
    have hafter : afterSign (sign ++ c :: r) = c :: r := by
      rcases hsign with rfl | rfl | rfl <;> simp [afterSign, hplus, hminus]
    refine ⟨?_, by simp⟩
    simp only [strtod, hw, hafter, hread]

example : (strtod "NaN(x)".data).endptr = [] ∧ (strtod " -1e3".data).endptr = [] ∧
    (strtod "0x".data).endptr = ['x'] ∧ (strtod "nancy".data).endptr = ['c', 'y'] := by
  decide

end Minijail.Libc
