import Minijail.Proofs.Fields
import Minijail.Proofs.IdMap

/-!
# `Minijail.Proofs.Exit`: when `minijail0` exits with status 0

A run ends in one of three ways (`Exit`). Every error path of `minijail0.c` before the launch
prints a message and exits 1, and a library call can abort. Only three paths end silently, with
`exit (status)`. `-h` exits 0 and `-H` and an unknown option exit 1 (`parseOpt_eq_exit`). A
missing program exits 1 after the usage text (`parseArgsTail_eq_exit`). The helpers, the calls on
the jail and the checks never end silently (`Jail.call_ne_exit`, `Jail.check_ne_exit` and one
lemma per helper).

`main_exit_zero` follows. Status 0 comes from `-h`, or from `main`'s own launch call of the
program, after which `-i` was given or `minijail_wait` returned a status whose low eight bits are
0: the process keeps only those of `main`'s return value (`Exit.status`). The launch call must
have returned, but its value does not matter: `main` ignores it
(`main_exits_zero_after_failed_launch`).
-/

set_option autoImplicit false

namespace Minijail

open Libc

/-! ### Errors that are not silent exits -/

theorem except_map_eq_error {ε α β : Type} {x : Except ε α} {f : α → β} {e : ε} :
    x.map f = .error e ↔ x = .error e := by
  cases x <;> simp [Except.map]

theorem except_bind_eq_error {ε α β : Type} {x : Except ε α} {f : α → Except ε β}
    {e : ε} :
    x >>= f = .error e ↔ x = .error e ∨ ∃ a, x = .ok a ∧ f a = .error e := by
  cases x <;> simp [bind, Except.bind]

section Silent

variable {env : Env} {j : Jail} {n : Int}

theorem Jail.call_ne_exit (c : JailCall) : j.call env c ≠ .error (.exit n) := by
  unfold Jail.call Jail.callRet
  split <;> simp [Except.map]

theorem Jail.check_ne_exit (c : JailCall) (msg : String) :
    j.check env c msg ≠ .error (.exit n) := by
  unfold Jail.check Jail.callRet
  rcases env.jail j c with _ | r
  · simp
  · by_cases hr : r = 0 <;> simp [hr]

theorem ParseState.call_ne_exit (st : ParseState) (c : JailCall) :
    st.call env c ≠ .error (.exit n) := by
  simp only [ParseState.call, ne_eq, except_map_eq_error]
  exact Jail.call_ne_exit c

theorem ParseState.check_ne_exit (st : ParseState) (c : JailCall) (msg : String) :
    st.check env c msg ≠ .error (.exit n) := by
  simp only [ParseState.check, ne_eq, except_map_eq_error]
  exact Jail.check_ne_exit c msg

theorem setUser_ne_exit (arg : String) (gid : UInt32) :
    setUser env j arg gid ≠ .error (.exit n) := by
  unfold setUser
  dsimp only
  split_ifs
  · simp [except_map_eq_error, Jail.call_ne_exit]
  · split <;> simp [except_map_eq_error, Jail.check_ne_exit]

theorem setGroup_ne_exit (arg : String) : setGroup env j arg ≠ .error (.exit n) := by
  unfold setGroup
  dsimp only
  split_ifs
  · simp [except_map_eq_error, Jail.call_ne_exit]
  · split <;> simp [except_map_eq_error, Jail.check_ne_exit]

theorem hexMaskOption_ne_exit (what : String) (call : UInt64 → JailCall) (arg : String) :
    hexMaskOption what call env j arg ≠ .error (.exit n) := by
  unfold hexMaskOption
  split <;> simp [Jail.call_ne_exit]

theorem addBinding_ne_exit (arg : String) : addBinding env j arg ≠ .error (.exit n) := by
  rw [addBinding_eq]
  split <;> simp [Jail.check_ne_exit]

theorem addRlimit_ne_exit (arg : String) : addRlimit env j arg ≠ .error (.exit n) := by
  rw [addRlimit_eq]
  split <;> simp [Jail.check_ne_exit]

theorem addMount_ne_exit (arg : String) : addMount env j arg ≠ .error (.exit n) := by
  rw [addMount_eq]
  split <;> simp [Jail.check_ne_exit]

theorem idMapOrDefault_ne_exit (map : Option String) (id callerId : UInt32) :
    idMapOrDefault map id callerId ≠ .error (.exit n) := by
  cases map with
  | none =>
    obtain ⟨idmap, h⟩ := buildIdmap_ok id callerId
    rw [idMapOrDefault, h]
    nofun
  | some map => nofun

theorem hasCapSetgid_ne_exit (probe : CapProbe) : hasCapSetgid probe ≠ .error (.exit n) := by
  cases probe <;> simp [hasCapSetgid]

theorem setUidMapping_ne_exit (uid : UInt32) (uidmap : Option String) :
    setUidMapping env j uid uidmap ≠ .error (.exit n) := by
  simp [setUidMapping, except_bind_eq_error, Jail.call_ne_exit, Jail.check_ne_exit,
    idMapOrDefault_ne_exit]

theorem setGidMapping_ne_exit (gid : UInt32) (gidmap : Option String) :
    setGidMapping env j gid gidmap ≠ .error (.exit n) := by
  simp only [setGidMapping, ne_eq, except_bind_eq_error, Jail.call_ne_exit, Jail.check_ne_exit,
    idMapOrDefault_ne_exit, hasCapSetgid_ne_exit, false_or, not_exists, not_and]
  intro _ _ _ _ _ _ cap _ h
  simp only [and_false, exists_false, or_false] at h
  split at h
  · cases h
  · exact Jail.call_ne_exit _ h

theorem setUgidMapping_ne_exit (setUidmap : Bool) (uid : UInt32) (uidmap : Option String)
    (setGidmap : Bool) (gid : UInt32) (gidmap : Option String) :
    setUgidMapping env j setUidmap uid uidmap setGidmap gid gidmap ≠ .error (.exit n) := by
  simp only [setUgidMapping, ne_eq, except_bind_eq_error, not_or, not_exists, not_and]
  constructor
  · split <;> simp [setUidMapping_ne_exit]
  · intro j' _
    split <;> simp [setGidMapping_ne_exit]

end Silent

/-! ### The silent exits of `parse_args` -/

/-- The options that end the loop with `exit (status)`: `-h` with 0, `-H` and an unknown option
with 1. -/
theorem parseOpt_eq_exit {env : Env} {st : ParseState} {o : Opt} {n : Int}
    (h : parseOpt env st o = .error (.exit n)) :
    (o = .h ∧ n = 0) ∨ ((o = .H ∨ o = .unknown) ∧ n = 1) := by
  cases o <;> simp [parseOpt, except_map_eq_error, except_bind_eq_error, ParseState.call_ne_exit,
    ParseState.check_ne_exit, setUser_ne_exit, setGroup_ne_exit, skipSecurebits, useCaps,
    hexMaskOption_ne_exit, addBinding_ne_exit, addRlimit_ne_exit, addMount_ne_exit] at h ⊢
  -- left: the checks inside the loop, and the options with an optional argument
  all_goals first
    | omega
    | (split_ifs at h <;> simp_all [except_bind_eq_error, except_map_eq_error,
        ParseState.call_ne_exit, ParseState.check_ne_exit])
    | (obtain ⟨a, -, h⟩ := h
       split at h <;> (try split at h) <;> simp_all [ParseState.call_ne_exit])
    | (split at h <;> simp_all [ParseState.call_ne_exit])

/-- A loop that ends with `exit (status)` met `-h` (status 0), or `-H` or an unknown option
(status 1). -/
theorem loop_eq_exit {env : Env} {n : Int} (opts : List Opt) :
    ∀ st, opts.foldlM (parseOpt env) st = .error (.exit n) →
      (Opt.h ∈ opts ∧ n = 0) ∨ ((Opt.H ∈ opts ∨ Opt.unknown ∈ opts) ∧ n = 1) := by
  induction opts with
  | nil => intro st h; cases h
  | cons o opts ih =>
    intro st h
    rw [List.foldlM_cons] at h
    rcases except_bind_eq_error.1 h with h | ⟨s, -, h⟩
    · rcases parseOpt_eq_exit h with ⟨rfl, rfl⟩ | ⟨rfl | rfl, rfl⟩ <;> simp
    · rcases ih s h with ⟨hh, rfl⟩ | ⟨hH, rfl⟩
      · exact .inl ⟨List.mem_cons_of_mem _ hh, rfl⟩
      · exact .inr ⟨hH.imp (List.mem_cons_of_mem _) (List.mem_cons_of_mem _), rfl⟩

/-- A step after the loop that never ends the run with `exit (status)`. -/
def NeverExits (step : ParseState → Except Exit ParseState) : Prop :=
  ∀ st n, step st ≠ .error (.exit n)

theorem NeverExits.bind {f g : ParseState → Except Exit ParseState} (hf : NeverExits f)
    (hg : NeverExits g) : NeverExits fun st => f st >>= g := by
  intro st n h
  rcases except_bind_eq_error.1 h with h | ⟨s, -, h⟩
  · exact hf st n h
  · exact hg s n h

section Steps

variable (env : Env)

theorem neverExits_refuseIf (bad : ParseState → Bool) (msg : String) :
    NeverExits (refuseIf bad msg) := by
  intro st n
  unfold refuseIf
  split <;> simp

theorem neverExits_tailSteps : NeverExits (tailSteps env) := by
  have h₁ : NeverExits (preserveStderr env) := by
    intro st n
    unfold preserveStderr
    split <;> simp [ParseState.check_ne_exit]
  have h₂ : NeverExits (setUpIdMaps env) := by
    intro st n
    unfold setUpIdMaps
    split <;> simp [except_map_eq_error, setUgidMapping_ne_exit]
  have h₄ : NeverExits (forwardSignals env) := by
    intro st n
    unfold forwardSignals
    split <;> simp [ParseState.call_ne_exit]
  have h₇ : NeverExits (parseSeccompFilters env) := by
    intro st n
    unfold parseSeccompFilters
    split <;> simp [ParseState.call_ne_exit]
  exact (((((h₁.bind h₂).bind (neverExits_refuseIf _ _)).bind h₄).bind
    (neverExits_refuseIf _ _)).bind (neverExits_refuseIf _ _)).bind h₇

end Steps

/-- The tail ends with `exit (status)` only when no program follows the options, with status 1
after the usage text. -/
theorem parseArgsTail_eq_exit {env : Env} {st : ParseState} {operands : List String} {n : Int}
    (h : parseArgsTail env st operands = .error (.exit n)) : operands = [] ∧ n = 1 := by
  rw [parseArgsTail_eq] at h
  rcases except_bind_eq_error.1 h with h | ⟨s, -, h⟩
  · exact absurd h (neverExits_tailSteps env st n)
  rcases operands with _ | ⟨program, rest⟩
  · cases h
    exact ⟨rfl, rfl⟩
  · have hprobe : probeElfType env program s ≠ .error (.exit n) := by
      unfold probeElfType
      split_ifs <;> simp
    simp only [tailTarget, except_map_eq_error, except_bind_eq_error, hprobe, false_or] at h
    obtain ⟨s', -, h⟩ := h
    exact absurd h (neverExits_refuseIf _ _ s' n)

/-- Every silent exit of `parse_args`: `-h` with status 0, and `-H`, an unknown option or a
missing program with status 1. -/
theorem parseArgs_eq_exit {env : Env} {argv : List String} {n : Int}
    (h : parseArgs env argv = .error (.exit n)) :
    (Opt.h ∈ options argv ∧ n = 0) ∨
      ((Opt.H ∈ options argv ∨ Opt.unknown ∈ options argv) ∧ n = 1) ∨
      (operands argv = [] ∧ n = 1) := by
  rcases except_bind_eq_error.1 h with h | ⟨st, -, h⟩
  · rcases loop_eq_exit _ _ h with h | h
    · exact .inl h
    · exact .inr (.inl h)
  · exact .inr (.inr (parseArgsTail_eq_exit h))

/-! ### The status of `main` -/

/-- The flags of an accepted `parse_args`: those of its options, and the final ELF type. -/
theorem parseArgs_flags {env : Env} {argv : List String} {r : ParseState × String × List String}
    (h : parseArgs env argv = .ok r) :
    r.1.flags = { flagsOf (options argv) with elftype := r.1.elftype } := by
  obtain ⟨st, hloop, htail⟩ := except_bind_eq_ok.1 h
  rw [(parseArgsTail_ok htail).2.1, (options_flags hloop).2]

/-- An accepted `parse_args` returns `argv` from `optind` on. -/
theorem parseArgs_operands {env : Env} {argv : List String} {st : ParseState} {program : String}
    {rest : List String} (h : parseArgs env argv = .ok (st, program, rest)) :
    operands argv = program :: rest := by
  obtain ⟨s, -, htail⟩ := except_bind_eq_ok.1 h
  exact (parseArgsTail_ok htail).2.2

/-- After `parse_args`, `main` either exits with a message and no launch, or launches: with
`minijail_run_no_preload` for a static target, and with `minijail_run` for a dynamic one once
`dlopen` found the preload library. -/
theorem main_of_parseArgs {env : Env} {argv : List String} {st : ParseState} {program : String}
    {rest : List String} (h : parseArgs env argv = .ok (st, program, rest)) :
    (∃ msg, main env argv = ⟨.error msg, none⟩) ∨
      ∃ c, main env argv = launchWith env st c ∧
        (st.elftype = .ELFSTATIC ∧ c = .runNoPreload program (program :: rest) ∨
          st.elftype = .ELFDYNAMIC ∧ env.dlopen = none ∧
            c = .run program (program :: rest)) := by
  unfold main
  rw [h]
  dsimp only
  split_ifs
  · exact .inl ⟨_, rfl⟩
  cases he : st.elftype with
  | ELFSTATIC => exact .inr ⟨_, rfl, .inl ⟨rfl, rfl⟩⟩
  | ELFDYNAMIC =>
    cases env.dlopen with
    | none => exact .inr ⟨_, rfl, .inr ⟨rfl, rfl, rfl⟩⟩
    | some msg => exact .inl ⟨_, rfl⟩
  | ELFERROR => exact .inl ⟨_, rfl⟩

/-- A launch that ends with status 0: the launch call `c` returned, and `-i` was given or
`minijail_wait` returned a status whose low eight bits are 0. -/
theorem launchWith_exit_zero {env : Env} {st : ParseState} {c : JailCall}
    (h : (launchWith env st c).exit.status = some 0) :
    ∃ ret, env.jail st.jail c = some ret ∧
      (launchWith env st c).launch = some ⟨st.elftype, st.jail, some ret⟩ ∧
      (st.exitImmediately ∨ ∃ w, env.jail (c :: st.jail) .wait = some w ∧ w % 256 = 0) := by
  unfold launchWith Jail.callRet at h ⊢
  rcases hc : env.jail st.jail c with _ | ret
  · simp [hc, Exit.status] at h
  simp only [hc] at h ⊢
  refine ⟨ret, rfl, ?_⟩
  split_ifs at h ⊢ with hi
  · exact ⟨by trivial, .inl hi⟩
  rcases hw : env.jail (c :: st.jail) .wait with _ | w
  · simp [hw, Exit.status] at h
  simp only [hw, Exit.status, Option.some.injEq] at h ⊢
  exact ⟨by trivial, .inr ⟨w, rfl, h⟩⟩

/-- Under `-i`, `main` exits with status 0 even when the launch call reports a failure. -/
theorem main_exits_zero_after_failed_launch :
    main { sampleEnv with
        jail := fun _ c =>
          if c = .runNoPreload "/bin/true" ["/bin/true"] then some (-1) else some 0 }
      ["minijail0", "-i", "-T", "static", "/bin/true"] =
      ⟨.exit 0, some ⟨.ELFSTATIC, [.forwardSignals], some (-1)⟩⟩ := by
  decide

/-- `minijail0` exits with status 0 only after `-h`, or after its own launch call: the program
and its arguments from `optind` on, by `minijail_run_no_preload` for a static target and by
`minijail_run` for a dynamic one. That call returned, and then `-i` was given or
`minijail_wait` returned a status whose low eight bits are 0. -/
theorem main_exit_zero (env : Env) (argv : List String) (h : (main env argv).exit.status = some 0) :
    given (options argv) 'h' ∨
      ∃ program rest l c ret, operands argv = program :: rest ∧
        (main env argv).launch = some l ∧
        (l.elftype = .ELFSTATIC ∧ c = .runNoPreload program (program :: rest) ∨
          l.elftype = .ELFDYNAMIC ∧ c = .run program (program :: rest)) ∧
        env.jail l.jail c = some ret ∧ l.ret = some ret ∧
        (given (options argv) 'i' ∨ ∃ w, env.jail (c :: l.jail) .wait = some w ∧ w % 256 = 0) := by
  rcases hp : parseArgs env argv with e | ⟨st, program, rest⟩
  · -- `parse_args` ended the run: only `-h` does so with status 0
    left
    simp only [main, hp] at h
    rcases e with msg | n | _ <;> simp [Exit.status] at h
    rcases parseArgs_eq_exit hp with ⟨hh, -⟩ | ⟨-, rfl⟩ | ⟨-, rfl⟩
    · exact List.any_eq_true.2 ⟨_, hh, rfl⟩
    all_goals omega
  · right
    rcases main_of_parseArgs hp with ⟨msg, hm⟩ | ⟨c, hm, hc⟩
    · simp [hm, Exit.status] at h
    rw [hm] at h ⊢
    obtain ⟨ret, hret, hl, hi⟩ := launchWith_exit_zero h
    have hflag : st.exitImmediately = given (options argv) 'i' :=
      congrArg Flags.exitImmediately (parseArgs_flags hp)
    -- the dynamic case also found the preload library, which the statement does not need
    exact ⟨program, rest, _, c, ret, parseArgs_operands hp, hl, hc.imp id fun h => ⟨h.1, h.2.2⟩,
      hret, rfl, hflag ▸ hi⟩

theorem main_exit_zero_immediately :
    (main sampleEnv ["minijail0", "-i", "-T", "static", "/bin/true"]).exit.status = some 0 ∧
      (given (options ["minijail0", "-i", "-T", "static", "/bin/true"]) 'h' ∨
        ∃ program rest l c ret,
          operands ["minijail0", "-i", "-T", "static", "/bin/true"] = program :: rest ∧
          (main sampleEnv ["minijail0", "-i", "-T", "static", "/bin/true"]).launch = some l ∧
          (l.elftype = .ELFSTATIC ∧ c = .runNoPreload program (program :: rest) ∨
            l.elftype = .ELFDYNAMIC ∧ c = .run program (program :: rest)) ∧
          sampleEnv.jail l.jail c = some ret ∧ l.ret = some ret ∧
          (given (options ["minijail0", "-i", "-T", "static", "/bin/true"]) 'i' ∨
            ∃ w, sampleEnv.jail (c :: l.jail) .wait = some w ∧ w % 256 = 0)) :=
  ⟨by decide, main_exit_zero sampleEnv _ (by decide)⟩

/-- A program that exits with 256 leaves `minijail0` with status 0. -/
example :
    (main { sampleEnv with jail := fun _ c => if c = .wait then some 256 else some 0 }
      ["minijail0", "-T", "static", "/bin/true"]).exit.status = some 0 := by
  decide

end Minijail
