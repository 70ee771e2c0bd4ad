import Minijail.Proofs.Tail

/-!
# `Minijail.Proofs.Fields`: the comma-separated arguments of `-b`, `-R` and `-k`

`add_binding`, `add_rlimit` and `add_mount` cut their argument with `strtok (arg, ",")`, so they
see the non-empty pieces of the argument (`strtok_tokens`). The theorems:

* `numericFields_read`: an argument with enough pieces is accepted exactly when the library
  accepts the call read off them, whatever their text (`addBinding_eq_ok` and its siblings in
  `Minijail.Proofs.Helpers`), and what the numeric sub-fields become. `atoi` reads a decimal numeral that fits in an `int` as its value, and a
  larger one wraps. `strtoul` reads hexadecimal flags below `2^64` as their value. Neither checks
  its input, and text with no numeral at its head is read as 0.
* `join_round_trip`: for comma-free, non-empty fields joined by commas, each field reaches its own
  parameter. `pieces_intercalate` states that `strtok` drops empty fields, so an empty field moves
  every later field one place forward. An empty flags field of `-k` thus makes the data the flags
  (`addMount_reads_data_as_flags`).
-/

set_option autoImplicit false

namespace Minijail

open Libc

/-! ### The numeric sub-fields -/

/-- `atoi` and `strtoul` check nothing: `-R 0,unlimited,unlimited` sets both limits of resource
0 to 0. -/
theorem addRlimit_reads_text_as_zero :
    addRlimit sampleEnv [] "0,unlimited,unlimited" = .ok [.rlimit 0 0 0] := by
  rfl

/-- When `-b`, `-R` and `-k` accept their argument, and what they hand the library for its
numeric sub-fields. An argument with enough pieces is accepted exactly when the library accepts
the call, whatever the text of the sub-fields: text that is no numeral is read as 0, not
refused. -/
theorem numericFields_read (env : Env) (j j' : Jail) (arg : String) :
    (addBinding env j arg = .ok j' ↔ ∃ src dest rest,
      pieces ',' arg.data = src :: dest :: rest ∧
      env.jail j (.bind ⟨src⟩ ⟨dest⟩ ((rest.head?.map atoi).getD 0)) = some 0 ∧
      j' = .bind ⟨src⟩ ⟨dest⟩ ((rest.head?.map atoi).getD 0) :: j) ∧
    (addRlimit env j arg = .ok j' ↔ ∃ type cur max rest,
      pieces ',' arg.data = type :: cur :: max :: rest ∧
      env.jail j (.rlimit (atoi type) (atoi cur) (atoi max)) = some 0 ∧
      j' = .rlimit (atoi type) (atoi cur) (atoi max) :: j) ∧
    (addMount env j arg = .ok j' ↔ ∃ src dest type rest,
      pieces ',' arg.data = src :: dest :: type :: rest ∧
      env.jail j (.mountWithData ⟨src⟩ ⟨dest⟩ ⟨type⟩
        ((rest.head?.map fun f => (strtoul f 16).1).getD 0)
        ((rest.drop 1).head?.map String.mk)) = some 0 ∧
      j' = .mountWithData ⟨src⟩ ⟨dest⟩ ⟨type⟩
        ((rest.head?.map fun f => (strtoul f 16).1).getD 0) ((rest.drop 1).head?.map String.mk) ::
          j) ∧
    (∀ f v, IsDecimalNumeral f v →
      atoi f = Int.bmod (max (min v (2 ^ 63 - 1)) (-2 ^ 63)) (2 ^ 32)) ∧
    (∀ f v, IsDecimalNumeral f v → -2 ^ 31 ≤ v → v < 2 ^ 31 → atoi f = v) ∧
    (∀ f digits, IsHexNumeral f false digits → valueIn 16 digits < 2 ^ 64 →
      (strtoul f 16).1.toNat = valueIn 16 digits) ∧
    (∀ c s, isSpace c = false → c ≠ '+' → c ≠ '-' →
      (c.isDigit = false → atoi (c :: s) = 0) ∧
      (isDigitIn 16 c = false → (strtoul (c :: s) 16).1 = 0)) := by
  refine ⟨addBinding_eq_ok, addRlimit_eq_ok, addMount_eq_ok, fun _ _ => atoi_decimalNumeral,
    fun _ _ => atoi_of_decimalNumeral, fun f digits h hv => ?_,
    fun c s hs hplus hminus =>
      ⟨atoi_of_head s hs hplus hminus, strtoul_of_head s hs hplus hminus⟩⟩
  rw [strtoul, strtoull_of_hexNumeral h]
  exact (if_neg (Nat.not_le.2 hv)).trans (if_neg Bool.false_ne_true)

/-! ### Fields joined by commas -/

/-- `-k` with an empty flags field and data: `strtok` skips the empty field, so the data is read
as the flags and `minijail_mount_with_data` gets no data. -/
theorem addMount_reads_data_as_flags :
    addMount sampleEnv [] "/src,/dst,tmpfs,,size=1" =
      .ok [.mountWithData "/src" "/dst" "tmpfs" 0 none] := by
  rfl

/-- Non-empty, comma-free fields joined by commas: each helper hands the library field `i` as its
`i`-th parameter. A missing optional field takes its default: 0 for the flags, `NULL` for the
data. -/
theorem join_round_trip (env : Env) (j : Jail) (fields : List (List Char))
    (hne : ∀ f ∈ fields, f ≠ []) (hcomma : ∀ f ∈ fields, ',' ∉ f) :
    (∀ src dest rest, fields = src :: dest :: rest →
      addBinding env j ⟨[','].intercalate fields⟩ =
        j.check env (.bind ⟨src⟩ ⟨dest⟩ ((rest.head?.map atoi).getD 0))
          "minijail_bind failed.\n") ∧
    (∀ type cur max rest, fields = type :: cur :: max :: rest →
      addRlimit env j ⟨[','].intercalate fields⟩ =
        j.check env (.rlimit (atoi type) (atoi cur) (atoi max))
          ("minijail_rlimit '" ++ ⟨type⟩ ++ "," ++ ⟨cur⟩ ++ "," ++ ⟨max⟩ ++
            "' failed.\n")) ∧
    (∀ src dest type rest, fields = src :: dest :: type :: rest →
      addMount env j ⟨[','].intercalate fields⟩ =
        j.check env (.mountWithData ⟨src⟩ ⟨dest⟩ ⟨type⟩
            ((rest.head?.map fun f => (strtoul f 16).1).getD 0) ((rest.drop 1).head?.map String.mk))
          "minijail_mount failed.\n") := by
  have hpieces : pieces ',' ([','].intercalate fields) = fields := by
    rcases fields with _ | ⟨f, fields⟩
    · rfl
    · rw [pieces_intercalate ',' (List.cons_ne_nil _ _) hcomma, List.filter_eq_self.2]
      simpa using hne
  refine ⟨?_, ?_, ?_⟩
  · rintro src dest rest rfl
    rw [addBinding_eq, hpieces]
  · rintro type cur max rest rfl
    rw [addRlimit_eq, hpieces]
  · rintro src dest type rest rfl
    rw [addMount_eq, hpieces]

theorem join_round_trip_tmpfs :
    (∀ f ∈ ["/src".data, "/dst".data, "tmpfs".data, "a".data], f ≠ []) ∧
      (∀ f ∈ ["/src".data, "/dst".data, "tmpfs".data, "a".data], ',' ∉ f) ∧
      addMount sampleEnv [] "/src,/dst,tmpfs,a" =
        .ok [.mountWithData "/src" "/dst" "tmpfs" 10 none] := by
  have h := (join_round_trip sampleEnv [] ["/src".data, "/dst".data, "tmpfs".data, "a".data]
    (by decide) (by decide)).2.2 _ _ _ _ rfl
  exact ⟨by decide, by decide, h.trans rfl⟩

end Minijail
