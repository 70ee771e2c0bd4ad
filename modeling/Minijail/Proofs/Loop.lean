import Minijail.Minijail0.ParseArgs
import Minijail.Proofs.Helpers

/-!
# `Minijail.Proofs.Loop`: what the option loop of `parse_args` keeps

The checks of `parse_args` read twelve of its locals, and `main` reads `*exit_immediately`
(`Flags`). One turn of the loop changes them in a fixed way. An option sets its own flag (`-b`
sets `binding`, `-C` sets `chroot`, and so on). `-s` and `-S` set `seccomp` to 1 and 2. `-T`
sets the ELF type. `Flags.update` states this. An accepted turn also passed the three checks
inside the loop (`Flags.Conflict`).

`parseOpt_apply` is the inversion lemma of one turn, for every option, from any state and under
any environment. An accepted turn passed the checks, set the locals as `ParseState.apply` says,
and made the calls `Opt.calls` on the jail. The rest of the development cites it, and no later
proof unfolds `parseOpt`.

`flagsOf` gives the flags from the options alone, with no regard to their order. `NoConflict`
says no two options of a forbidden pair were both given. `loop_flags` is the run lemma: a loop
that accepts all of `opts` ends with `flagsOf opts`, and `opts` has no forbidden pair. The run
lemma `loop_jail` gives the jail: the calls of the options, in their order (`callsOf`).
-/

set_option autoImplicit false

namespace Minijail

open Libc

/-- The state `parse_args` starts from. simp's lemmas on an existential over states (such as
`exists_const`) look for this instance. -/
instance : Inhabited ParseState := ⟨{}⟩

/-- A call, for the same lemmas on an existential over calls. -/
instance : Inhabited JailCall := ⟨.forwardSignals⟩

namespace ParseState

variable {env : Env} {st st' : ParseState} {c : JailCall} {msg : String}

@[simp] theorem call_eq_ok : st.call env c = .ok st' ↔
    (env.jail st.jail c).isSome ∧ st' = { st with jail := c :: st.jail } := by
  simp only [call, except_map_eq_ok, Jail.call_eq_ok]
  constructor
  · rintro ⟨j, ⟨hs, rfl⟩, rfl⟩
    exact ⟨hs, rfl⟩
  · rintro ⟨hs, rfl⟩
    exact ⟨_, ⟨hs, rfl⟩, rfl⟩

@[simp] theorem check_eq_ok : st.check env c msg = .ok st' ↔
    env.jail st.jail c = some 0 ∧ st' = { st with jail := c :: st.jail } := by
  simp only [check, except_map_eq_ok, Jail.check_eq_ok]
  constructor
  · rintro ⟨j, ⟨hs, rfl⟩, rfl⟩
    exact ⟨hs, rfl⟩
  · rintro ⟨hs, rfl⟩
    exact ⟨_, ⟨hs, rfl⟩, rfl⟩

end ParseState

/-! ### The flags -/

/-- The locals of `parse_args` that its checks and `main` read: the flags of the cross-option
rules, the state of `-s`/`-S`, `set_gidmap` (which decides the libcap probe),
`*exit_immediately` and `*elftype`. -/
structure Flags where
  binding : Bool
  chroot : Bool
  pivotRoot : Bool
  mountNs : Bool
  skipRemount : Bool
  inheritSupplGids : Bool
  keepSupplGids : Bool
  caps : Bool
  ambientCaps : Bool
  seccomp : Int
  setGidmap : Bool
  exitImmediately : Bool
  elftype : ElfType
  deriving DecidableEq, Repr

/-- The flags of a state. -/
@[simps] def ParseState.flags (st : ParseState) : Flags :=
  ⟨st.binding, st.chroot, st.pivotRoot, st.mountNs, st.skipRemount, st.inheritSupplGids,
    st.keepSupplGids, st.caps, st.ambientCaps, st.seccomp, st.setGidmap, st.exitImmediately,
    st.elftype⟩

/-- The ELF type after `-T type`: `static` and `dynamic` set it; `parse_args` refuses any other
type. -/
def elfOfType (type : String) (old : ElfType) : ElfType :=
  if type = "static" then .ELFSTATIC else if type = "dynamic" then .ELFDYNAMIC else old

/-- What an accepted option does to the flags. -/
def Flags.update (f : Flags) : Opt → Flags
  | .b _ => { f with binding := true }
  | .C _ => { f with chroot := true }
  | .P _ => { f with pivotRoot := true }
  | .v => { f with mountNs := true }
  | .K => { f with skipRemount := true }
  | .G => { f with inheritSupplGids := true }
  | .y => { f with keepSupplGids := true }
  | .c _ => { f with caps := true }
  | .ambient => { f with ambientCaps := true }
  | .s => { f with seccomp := 1 }
  | .S _ => { f with seccomp := 2 }
  | .M _ => { f with setGidmap := true }
  | .i => { f with exitImmediately := true }
  | .T type => { f with elftype := elfOfType type f.elftype }
  | _ => f

/-- The checks inside the loop: `o` is refused against the flags `f`. -/
def Flags.Conflict (f : Flags) : Opt → Prop
  | .s => f.seccomp ≠ -1 ∧ f.seccomp ≠ 1
  | .S _ => f.seccomp ≠ -1 ∧ f.seccomp ≠ 2
  | .C _ => f.pivotRoot
  | .P _ => f.chroot
  | .G => f.keepSupplGids
  | .y => f.inheritSupplGids
  | _ => False

/-! ### One turn of the loop -/

/-- The locals an accepted option sets, its calls on the jail apart. -/
def ParseState.apply (env : Env) (st : ParseState) : Opt → ParseState
  | .u user => { st with uid := (userIds env user st.gid).1, gid := (userIds env user st.gid).2 }
  | .g group => { st with gid := groupGid env group }
  | .s => { st with seccomp := 1 }
  | .S file => { st with seccomp := 2, filterPath := some file }
  | .b _ => { st with binding := true }
  | .c _ => { st with caps := true }
  | .C _ => { st with chroot := true }
  | .K => { st with skipRemount := true }
  | .P _ => { st with pivotRoot := true }
  | .v => { st with mountNs := true }
  | .G => { st with inheritSupplGids := true }
  | .y => { st with keepSupplGids := true }
  | .i => { st with exitImmediately := true }
  | .m map => { st with setUidmap := true, uidmap := map }
  | .M map => { st with setGidmap := true, gidmap := map }
  | .T type => { st with elftype := elfOfType type st.elftype }
  | .z => { st with forward := false }
  | .ambient => { st with ambientCaps := true }
  | .logging system => { st with logToStderr := decide (system = "stderr") }
  | _ => st

/-- The calls an accepted option makes on the jail, latest first. They depend on the option and
the environment only, never on the options before it. -/
def Opt.calls (env : Env) : Opt → Jail
  | .u user => [userCall env user]
  | .g group => [groupCall env group]
  | .n => [.noNewPrivs]
  | .s => [.useSeccomp]
  | .S _ => [.useSeccompFilter]
  | .l => [.namespaceIpc]
  | .L => [.logSeccompFilterFailures]
  | .b arg => bindCalls arg
  | .B arg => [.skipSettingSecurebits (strtoull arg.data 16).1]
  | .c arg => [.useCaps (strtoull arg.data 16).1]
  | .C dir => [.enterChroot dir]
  | .k arg => mountCalls arg
  | .K => [.skipRemountPrivate]
  | .P dir => [.namespaceVfs, .enterPivotRoot dir]
  | .f file => [.writePidFile file]
  | .t size =>
    ((match size with
      | none => some (64 * 1024 * 1024)
      | some arg => env.parseSize arg).map JailCall.mountTmpSize).toList ++ [.namespaceVfs]
  | .v => [.namespaceVfs]
  | .V file => [.namespaceEnterVfs file]
  | .r => [.remountProcReadonly]
  | .G => [.inheritUsergroups]
  | .y => [.keepSupplementaryGids]
  | .N => [.namespaceCgroups]
  | .p => [.namespacePids]
  | .e file => [(file.map JailCall.namespaceEnterNet).getD .namespaceNet]
  | .I => [.runAsInit, .namespacePids]
  | .U => [.namespacePids, .namespaceUser]
  | .a table => [.useAltSyscall table]
  | .R arg => rlimitCalls arg
  | .w => [.newSessionKeyring]
  | .Y => [.setSeccompFilterTsync]
  | .d => [.mountDev, .namespaceVfs]
  | .ambient => [.setAmbientCaps]
  | .uts name => (name.map JailCall.namespaceSetHostname).toList ++ [.namespaceUts]
  | .i | .H | .m _ | .M _ | .T _ | .z | .logging _ | .h | .unknown => []

section Step

variable {env : Env} {st st' : ParseState}

theorem flags_of_call {c : JailCall} (h : st.call env c = .ok st') : st'.flags = st.flags := by
  obtain ⟨-, rfl⟩ := ParseState.call_eq_ok.1 h
  rfl

theorem flags_of_check {c : JailCall} {msg : String} (h : st.check env c msg = .ok st') :
    st'.flags = st.flags := by
  obtain ⟨-, rfl⟩ := ParseState.check_eq_ok.1 h
  rfl

/-- The inversion lemma of one turn of the loop: an accepted turn passed the checks inside the
loop, set the locals as `ParseState.apply` says, and made the calls `Opt.calls` on the jail. -/
theorem parseOpt_apply {o : Opt} (h : parseOpt env st o = .ok st') :
    ¬ st.flags.Conflict o ∧ st' = { st.apply env o with jail := o.calls env ++ st.jail } := by
  cases o with
  | n | l | L | V | r | N | p | w | Y | ambient =>
    obtain ⟨-, rfl⟩ := ParseState.call_eq_ok.1 h
    exact ⟨not_false, rfl⟩
  | f | a =>
    obtain ⟨-, rfl⟩ := ParseState.check_eq_ok.1 h
    exact ⟨not_false, rfl⟩
  | I | U | d =>
    obtain ⟨s, h₁, h₂⟩ := except_bind_eq_ok.1 h
    obtain ⟨-, rfl⟩ := ParseState.call_eq_ok.1 h₁
    obtain ⟨-, rfl⟩ := ParseState.call_eq_ok.1 h₂
    exact ⟨not_false, rfl⟩
  | u user =>
    obtain ⟨r, hr, rfl⟩ := except_map_eq_ok.1 h
    rw [setUser_eq_ok hr]
    exact ⟨not_false, rfl⟩
  | g group =>
    obtain ⟨r, hr, rfl⟩ := except_map_eq_ok.1 h
    rw [setGroup_eq_ok hr]
    exact ⟨not_false, rfl⟩
  | B | c =>
    obtain ⟨j, hj, rfl⟩ := except_map_eq_ok.1 h
    rw [hexMaskOption_eq_ok hj]
    exact ⟨not_false, rfl⟩
  | b arg =>
    obtain ⟨j, hj, rfl⟩ := except_map_eq_ok.1 h
    rw [addBinding_calls hj]
    exact ⟨not_false, rfl⟩
  | k arg =>
    obtain ⟨j, hj, rfl⟩ := except_map_eq_ok.1 h
    rw [addMount_calls hj]
    exact ⟨not_false, rfl⟩
  | R arg =>
    obtain ⟨j, hj, rfl⟩ := except_map_eq_ok.1 h
    rw [addRlimit_calls hj]
    exact ⟨not_false, rfl⟩
  | v | K =>
    obtain ⟨s, hs, rfl⟩ := except_map_eq_ok.1 h
    obtain ⟨-, rfl⟩ := ParseState.call_eq_ok.1 hs
    exact ⟨not_false, rfl⟩
  | G | y | C =>
    rw [parseOpt] at h
    split at h
    · cases h
    · rename_i hc
      obtain ⟨s, hs, rfl⟩ := except_map_eq_ok.1 h
      first
        | obtain ⟨-, rfl⟩ := ParseState.call_eq_ok.1 hs
        | obtain ⟨-, rfl⟩ := ParseState.check_eq_ok.1 hs
      exact ⟨hc, rfl⟩
  | P =>
    rw [parseOpt] at h
    split at h
    · cases h
    · rename_i hc
      obtain ⟨s, hs, rfl⟩ := except_map_eq_ok.1 h
      obtain ⟨s₁, h₁, h₂⟩ := except_bind_eq_ok.1 hs
      obtain ⟨-, rfl⟩ := ParseState.check_eq_ok.1 h₁
      obtain ⟨-, rfl⟩ := ParseState.call_eq_ok.1 h₂
      exact ⟨hc, rfl⟩
  | s =>
    rw [parseOpt] at h
    split at h
    · cases h
    · rename_i hc
      obtain ⟨-, rfl⟩ := ParseState.call_eq_ok.1 h
      exact ⟨hc, rfl⟩
  | S =>
    rw [parseOpt] at h
    split at h
    · cases h
    · rename_i hc
      obtain ⟨s, hs, h'⟩ := except_bind_eq_ok.1 h
      obtain ⟨-, rfl⟩ := ParseState.call_eq_ok.1 hs
      split at h'
      · cases h'
      · cases h'
        exact ⟨hc, rfl⟩
  | i | m | M | z => cases h; exact ⟨not_false, rfl⟩
  | T type =>
    rw [parseOpt] at h
    split_ifs at h with h₁ h₂ <;> cases h
    · subst h₁; exact ⟨not_false, rfl⟩
    · subst h₂; exact ⟨not_false, rfl⟩
  | logging system =>
    rw [parseOpt] at h
    split_ifs at h with h₁ h₂ <;> cases h
    · subst h₁; exact ⟨not_false, rfl⟩
    · subst h₂; exact ⟨not_false, rfl⟩
  | e file =>
    cases file <;> obtain ⟨-, rfl⟩ := ParseState.call_eq_ok.1 h <;> exact ⟨not_false, rfl⟩
  | t size =>
    obtain ⟨s, hs, h'⟩ := except_bind_eq_ok.1 h
    obtain ⟨-, rfl⟩ := ParseState.call_eq_ok.1 hs
    rcases size with _ | size
    · obtain ⟨-, rfl⟩ := ParseState.call_eq_ok.1 h'
      exact ⟨not_false, rfl⟩
    · simp only at h'
      split at h'
      · cases h'
      · rename_i sz hsz
        obtain ⟨-, rfl⟩ := ParseState.call_eq_ok.1 h'
        have hcalls : Opt.calls env (.t (some size)) = [.mountTmpSize sz, .namespaceVfs] := by
          simp [Opt.calls, hsz]
        exact ⟨not_false, by rw [hcalls]; rfl⟩
  | uts name =>
    obtain ⟨s, hs, h'⟩ := except_bind_eq_ok.1 h
    obtain ⟨-, rfl⟩ := ParseState.call_eq_ok.1 hs
    rcases name with _ | name
    · cases h'
      exact ⟨not_false, rfl⟩
    · obtain ⟨-, rfl⟩ := ParseState.call_eq_ok.1 h'
      exact ⟨not_false, rfl⟩
  | h | H | unknown => cases h

/-- An accepted turn of the loop passed the checks inside it. -/
theorem parseOpt_noConflict {o : Opt} (h : parseOpt env st o = .ok st') :
    ¬ st.flags.Conflict o :=
  (parseOpt_apply h).1

/-- An accepted turn of the loop updates the flags as `Flags.update` says. -/
theorem parseOpt_flags {o : Opt} (h : parseOpt env st o = .ok st') :
    st'.flags = st.flags.update o := by
  rw [(parseOpt_apply h).2]
  cases o <;> rfl

end Step

/-! ### The whole loop -/

/-- Some option of `opts` has the value `k`. -/
def given (opts : List Opt) (k : Char) : Bool := opts.any (·.key == k)

/-- `*elftype` after the `-T` options of `opts`, from `ELFERROR`. -/
def elfOf (opts : List Opt) : ElfType :=
  opts.foldl (fun e o => match o with | .T type => elfOfType type e | _ => e) .ELFERROR

/-- The flags after a loop that accepted `opts`, from the options alone. -/
def flagsOf (opts : List Opt) : Flags where
  binding := given opts 'b'
  chroot := given opts 'C'
  pivotRoot := given opts 'P'
  mountNs := given opts 'v'
  skipRemount := given opts 'K'
  inheritSupplGids := given opts 'G'
  keepSupplGids := given opts 'y'
  caps := given opts 'c'
  ambientCaps := given opts '\x80'
  seccomp := if given opts 'S' then 2 else if given opts 's' then 1 else -1
  setGidmap := given opts 'M'
  exitImmediately := given opts 'i'
  elftype := elfOf opts

/-- `opts` has no two options of a pair the loop refuses together. -/
def NoConflict (opts : List Opt) : Prop :=
  ¬ (given opts 's' ∧ given opts 'S') ∧ ¬ (given opts 'C' ∧ given opts 'P') ∧
    ¬ (given opts 'G' ∧ given opts 'y')

@[simp] theorem given_nil (k : Char) : given [] k = false := rfl

@[simp] theorem given_append (opts opts' : List Opt) (k : Char) :
    given (opts ++ opts') k = (given opts k || given opts' k) := by
  simp [given]

@[simp] theorem given_singleton (o : Opt) (k : Char) : given [o] k = (o.key == k) := by
  simp [given]

theorem elfOf_append_singleton (opts : List Opt) (o : Opt) :
    elfOf (opts ++ [o]) =
      match o with | .T type => elfOfType type (elfOf opts) | _ => elfOf opts := by
  simp [elfOf, List.foldl_append]

theorem NoConflict.of_append {pre opts : List Opt} (h : NoConflict (pre ++ opts)) :
    NoConflict pre := by
  simp only [NoConflict, given_append, Bool.or_eq_true, not_and] at h ⊢
  exact ⟨fun hs hS => h.1 (.inl hs) (.inl hS), fun hC hP => h.2.1 (.inl hC) (.inl hP),
    fun hG hy => h.2.2 (.inl hG) (.inl hy)⟩

/-- The checks inside the loop refuse exactly the option that would complete a forbidden
pair. -/
theorem noConflict_append_singleton {pre : List Opt} (o : Opt) (hpre : NoConflict pre) :
    NoConflict (pre ++ [o]) ↔ ¬ (flagsOf pre).Conflict o := by
  unfold NoConflict at hpre ⊢
  simp only [given_append, given_singleton]
  cases o <;> dsimp only [Opt.key, Flags.Conflict] <;>
    simp only [Char.reduceBEq, Bool.or_false, Bool.or_true, not_false_eq_true, iff_true, hpre,
      true_and, and_true, and_self]
  -- left: the six options of the three pairs
  all_goals simp only [flagsOf]
  all_goals (try split_ifs) <;> simp_all

/-- An accepted option moves `flagsOf` by `Flags.update`. -/
theorem flagsOf_append_singleton {pre : List Opt} {o : Opt} (hc : ¬ (flagsOf pre).Conflict o) :
    flagsOf (pre ++ [o]) = (flagsOf pre).update o := by
  simp only [flagsOf, given_append, given_singleton, elfOf_append_singleton]
  cases o <;> dsimp only [Opt.key, Flags.update, Flags.Conflict] at hc ⊢ <;>
    simp only [Char.reduceBEq, Bool.or_false, Bool.or_true]
  -- left: `-s` and `-S`, which move `seccomp`
  all_goals simp only [flagsOf] at hc
  all_goals split_ifs at hc ⊢ <;> simp_all

/-- The run lemma of the option loop: from flags `flagsOf pre`, a loop that accepts `opts` ends
with `flagsOf (pre ++ opts)`, and `pre ++ opts` has no forbidden pair. -/
theorem loop_flags {env : Env} (opts : List Opt) :
    ∀ (pre : List Opt) (st st' : ParseState), NoConflict pre → st.flags = flagsOf pre →
      opts.foldlM (parseOpt env) st = .ok st' →
      NoConflict (pre ++ opts) ∧ st'.flags = flagsOf (pre ++ opts) := by
  induction opts with
  | nil =>
    rintro pre st st' hpre hst ⟨⟩
    simpa using ⟨hpre, hst⟩
  | cons o opts ih =>
    intro pre st st' hpre hst h
    rw [List.foldlM_cons] at h
    obtain ⟨s, hs, hrest⟩ := except_bind_eq_ok.1 h
    have hc : ¬ (flagsOf pre).Conflict o := hst ▸ parseOpt_noConflict hs
    have hflags := flagsOf_append_singleton hc
    simpa using ih (pre ++ [o]) s st' ((noConflict_append_singleton o hpre).2 hc)
      (by rw [parseOpt_flags hs, hst, hflags]) hrest

/-- The option loop of `parse_args` from its initial state: the flags it ends with depend on
the options only, and the options it accepted have no forbidden pair. -/
theorem options_flags {env : Env} {opts : List Opt} {st : ParseState}
    (h : opts.foldlM (parseOpt env) {} = .ok st) : NoConflict opts ∧ st.flags = flagsOf opts :=
  by simpa using loop_flags opts [] {} st (by simp [NoConflict]) rfl h

/-! ### The calls of the loop -/

/-- The calls the options `opts` make, latest first: the calls of each option, in the order of
the options. -/
def callsOf (env : Env) (opts : List Opt) : Jail :=
  opts.foldl (fun j o => o.calls env ++ j) []

/-- The run lemma of the loop for the jail: each accepted option adds its own calls. -/
theorem loop_jail {env : Env} (opts : List Opt) : ∀ st st' : ParseState,
    opts.foldlM (parseOpt env) st = .ok st' →
      st'.jail = opts.foldl (fun j o => o.calls env ++ j) st.jail := by
  induction opts with
  | nil => rintro st st' ⟨⟩; rfl
  | cons o opts ih =>
    intro st st' h
    rw [List.foldlM_cons] at h
    obtain ⟨s, hs, hrest⟩ := except_bind_eq_ok.1 h
    rw [ih s st' hrest, (parseOpt_apply hs).2, List.foldl_cons]

/-- The loop from the initial state leaves the jail `callsOf` its options. -/
theorem options_jail {env : Env} {opts : List Opt} {st : ParseState}
    (h : opts.foldlM (parseOpt env) {} = .ok st) : st.jail = callsOf env opts :=
  loop_jail opts {} st h

end Minijail
