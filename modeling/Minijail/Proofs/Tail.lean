import Minijail.Minijail0.Main
import Minijail.Proofs.Loop

/-!
# `Minijail.Proofs.Tail`: the checks after the loop, and what a launch guarantees

After its loop `parse_args` runs a fixed sequence of steps (`parseArgsTail`). Three of them are
checks on the flags (`refuseIf`). The others make calls on the jail, or decide the ELF type.
None of the call steps changes a flag (`KeepsFlags`), so the checks read the flags that the
loop left. `parseArgsTail_ok` states what an accepted tail guarantees: the rules of
`Flags.PostRules` held of the loop's flags and the final ELF type, and only the ELF type
changed.

`main` launches only after `parse_args` returned (`main_launch`). Together with the loop's run
lemma `options_flags`, this gives `launch_crossOptionRules`: a launched configuration
satisfies every cross-option rule over the options `getopt_long` handed to the loop.
-/

set_option autoImplicit false

namespace Minijail

/-! ### Steps that keep the flags -/

/-- A step after the loop that, when it succeeds, leaves the flags as they were. -/
def KeepsFlags (step : ParseState → Except Exit ParseState) : Prop :=
  ∀ ⦃st st' : ParseState⦄, step st = .ok st' → st'.flags = st.flags

theorem KeepsFlags.bind {f g : ParseState → Except Exit ParseState} (hf : KeepsFlags f)
    (hg : KeepsFlags g) : KeepsFlags fun st => f st >>= g := by
  intro st st' h
  obtain ⟨s, hs, h⟩ := except_bind_eq_ok.1 h
  rw [hg h, hf hs]

@[simp] theorem refuseIf_eq_ok {bad : ParseState → Bool} {msg : String} {st st' : ParseState} :
    refuseIf bad msg st = .ok st' ↔ bad st = false ∧ st' = st := by
  unfold refuseIf
  cases bad st <;> simp [eq_comm]

section Steps

variable (env : Env)

theorem keepsFlags_preserveStderr : KeepsFlags (preserveStderr env) := by
  intro st st' h
  unfold preserveStderr at h
  split at h
  · exact flags_of_check h
  · cases h; rfl

theorem keepsFlags_setUpIdMaps : KeepsFlags (setUpIdMaps env) := by
  intro st st' h
  unfold setUpIdMaps at h
  split at h
  · obtain ⟨_, -, rfl⟩ := except_map_eq_ok.1 h
    rfl
  · cases h; rfl

theorem keepsFlags_forwardSignals : KeepsFlags (forwardSignals env) := by
  intro st st' h
  unfold forwardSignals at h
  split at h
  · exact flags_of_call h
  · cases h; rfl

theorem keepsFlags_parseSeccompFilters : KeepsFlags (parseSeccompFilters env) := by
  intro st st' h
  unfold parseSeccompFilters at h
  split at h
  · exact flags_of_call h
  · cases h; rfl

/-- The probe of the target changes the ELF type and nothing else of the flags, and it keeps a
type that `-T` gave. -/
theorem probeElfType_flags {program : String} {st st' : ParseState}
    (h : probeElfType env program st = .ok st') :
    st'.flags = { st.flags with elftype := st'.elftype } ∧
      (st.elftype ≠ .ELFERROR → st'.elftype = st.elftype) := by
  unfold probeElfType at h
  split_ifs at h with he
  · cases h
    exact ⟨rfl, fun h => absurd he h⟩
  · cases h
    exact ⟨rfl, fun _ => rfl⟩

end Steps

/-! ### The accepted tail -/

/-- The three rules the tail checks on the flags `f` the loop left. -/
structure Flags.TailRules (f : Flags) : Prop where
  ambient : f.ambientCaps → f.caps
  binding : f.binding → f.chroot ∨ f.pivotRoot ∨ f.mountNs
  skipRemount : f.skipRemount → f.mountNs

/-- The rules `parse_args` checks after its loop, on the flags `f` the loop left and the ELF
type `elftype` it ends with. -/
structure Flags.PostRules (f : Flags) (elftype : ElfType) extends f.TailRules : Prop where
  staticCaps : f.caps → elftype = .ELFSTATIC → f.ambientCaps

/-- The steps of the tail before it reads `argv[optind]`. -/
def tailSteps (env : Env) (st : ParseState) : Except Exit ParseState :=
  preserveStderr env st >>= setUpIdMaps env >>=
    refuseIf (fun st => st.ambientCaps && !st.caps) ambientMessage >>= forwardSignals env >>=
    refuseIf (fun st => st.binding && !(st.chroot || st.pivotRoot || st.mountNs))
      bindingMessage >>=
    refuseIf (fun st => st.skipRemount && !st.mountNs) skipRemountMessage >>=
    parseSeccompFilters env

/-- The rest of the tail: the target program, its ELF type, and the check on capabilities. -/
def tailTarget (env : Env) (operands : List String) (st : ParseState) :
    Except Exit (ParseState × String × List String) :=
  match operands with
  | [] => .error (.exit 1)
  | program :: rest =>
    (probeElfType env program st >>=
      refuseIf (fun st => st.caps && st.elftype == .ELFSTATIC && !st.ambientCaps)
        staticCapsMessage).map fun st => (st, program, rest)

theorem parseArgsTail_eq (env : Env) (st : ParseState) (operands : List String) :
    parseArgsTail env st operands = tailSteps env st >>= tailTarget env operands := rfl

theorem setUpIdMaps_capProbe {env : Env} {st st' : ParseState}
    (h : setUpIdMaps env st = .ok st') (hg : st.setGidmap) :
    (hasCapSetgid env.capSetgid).isOk := by
  unfold setUpIdMaps at h
  rw [if_pos (by simp [hg])] at h
  obtain ⟨j, hj, -⟩ := except_map_eq_ok.1 h
  obtain ⟨j₁, -, hj⟩ := except_bind_eq_ok.1 hj
  rw [if_pos hg] at hj
  obtain ⟨_, -, hj⟩ := except_bind_eq_ok.1 hj
  obtain ⟨_, -, hj⟩ := except_bind_eq_ok.1 hj
  obtain ⟨_, -, hj⟩ := except_bind_eq_ok.1 hj
  obtain ⟨cap, hcap, -⟩ := except_bind_eq_ok.1 hj
  rw [hcap]
  rfl

/-- The steps before the target keep the flags, passed the three rules, and passed the
libcap probe when `-M` was given. -/
theorem tailSteps_ok {env : Env} {st st' : ParseState} (h : tailSteps env st = .ok st') :
    st'.flags = st.flags ∧ st.flags.TailRules ∧
      (st.setGidmap → (hasCapSetgid env.capSetgid).isOk) := by
  simp only [tailSteps, except_bind_eq_ok] at h
  obtain ⟨s₆, ⟨s₅, ⟨s₄, ⟨s₃, ⟨s₂, ⟨s₁, h₁, h₂⟩, h₃⟩, h₄⟩, h₅⟩, h₆⟩, h₇⟩ := h
  obtain ⟨hamb, h₃⟩ := refuseIf_eq_ok.1 h₃
  obtain ⟨hbind, h₅⟩ := refuseIf_eq_ok.1 h₅
  obtain ⟨hskip, h₆⟩ := refuseIf_eq_ok.1 h₆
  subst s₃ s₅ s₆
  have e₁ : s₁.flags = st.flags := keepsFlags_preserveStderr env h₁
  have e₂ : s₂.flags = st.flags := (keepsFlags_setUpIdMaps env h₂).trans e₁
  have e₄ : s₄.flags = st.flags := (keepsFlags_forwardSignals env h₄).trans e₂
  refine ⟨(keepsFlags_parseSeccompFilters env h₇).trans e₄, ⟨?_, ?_, ?_⟩, fun hg => ?_⟩
  · rw [← e₂]; simpa using hamb
  · rw [← e₄]; simpa [or_iff_not_imp_left] using hbind
  · rw [← e₄]; simpa using hskip
  · exact setUpIdMaps_capProbe h₂ (by rwa [← ParseState.flags_setGidmap, e₁])

/-- An accepted target: `argv[optind]` is the program, only the ELF type changed, and the check
on capabilities held of the final type. -/
theorem tailTarget_ok {env : Env} {operands : List String} {st : ParseState}
    {r : ParseState × String × List String} (h : tailTarget env operands st = .ok r) :
    operands = r.2.1 :: r.2.2 ∧ r.1.flags = { st.flags with elftype := r.1.elftype } ∧
      (st.flags.caps → r.1.elftype = .ELFSTATIC → st.flags.ambientCaps) := by
  rcases operands with _ | ⟨program, rest⟩
  · cases h
  obtain ⟨s, hs, rfl⟩ := except_map_eq_ok.1 h
  obtain ⟨s₁, h₁, hs⟩ := except_bind_eq_ok.1 hs
  obtain ⟨hstatic, hs⟩ := refuseIf_eq_ok.1 hs
  subst s
  have e := (probeElfType_flags env h₁).1
  have hc : s₁.caps = st.flags.caps := congrArg Flags.caps e
  have ha : s₁.ambientCaps = st.flags.ambientCaps := congrArg Flags.ambientCaps e
  refine ⟨rfl, e, ?_⟩
  rw [← hc, ← ha]
  simpa using hstatic

/-- An accepted tail: the rules held of the flags the loop left and of the final ELF type, the
tail changed no flag but the ELF type, and `argv[optind]` is the program. -/
theorem parseArgsTail_ok {env : Env} {st : ParseState} {operands : List String}
    {r : ParseState × String × List String} (h : parseArgsTail env st operands = .ok r) :
    st.flags.PostRules r.1.elftype ∧ r.1.flags = { st.flags with elftype := r.1.elftype } ∧
      operands = r.2.1 :: r.2.2 := by
  obtain ⟨s, hs, ht⟩ := except_bind_eq_ok.1 ((parseArgsTail_eq env st operands).symm.trans h)
  obtain ⟨es, hrules, -⟩ := tailSteps_ok hs
  obtain ⟨hops, er, hstatic⟩ := tailTarget_ok ht
  rw [es] at er hstatic
  exact ⟨⟨hrules, hstatic⟩, er, hops⟩

/-- An environment in which every call on the jail returns 0, `alice` is user 1000 with primary
group 1000, group `wheel` is 10, every path is an executable dynamic binary, and uid and gid
1000 run `minijail0`. -/
def sampleEnv : Env where
  jail _ _ := some 0
  getOriginalPath _ path := path
  lookupUser user := if user = "alice" then some (1000, 1000) else none
  lookupGroup group := if group = "wheel" then some 10 else none
  parseSize _ := some 0x100000
  access _ := true
  getElfLinkage _ := .ELFDYNAMIC
  getuid := 1000
  getgid := 1000
  capSetgid := .probed false
  setpgid := none
  dlopen := none
  intCast := ⟨fun _ => -2 ^ 31, -2 ^ 31⟩

/-! ### What `main` launches -/

/-- A launch hands over the ELF type and the jail of the state it is given. -/
theorem launchWith_launch (env : Env) (st : ParseState) (c : JailCall) :
    ∃ ret, (launchWith env st c).launch = some ⟨st.elftype, st.jail, ret⟩ := by
  unfold launchWith
  split
  · exact ⟨_, rfl⟩
  · split
    · exact ⟨_, rfl⟩
    · split <;> exact ⟨_, rfl⟩

/-- `main` launches only after `parse_args` returned, with the ELF type and the jail it built. -/
theorem main_launch {env : Env} {argv : List String} {l : Launch}
    (h : (main env argv).launch = some l) :
    ∃ st program rest, parseArgs env argv = .ok (st, program, rest) ∧
      l.elftype = st.elftype ∧ l.jail = st.jail := by
  unfold main at h
  split at h
  · cases h
  rename_i st program rest hargs
  refine ⟨st, program, rest, hargs, ?_⟩
  have hl : ∀ c, (launchWith env st c).launch = some l →
      l.elftype = st.elftype ∧ l.jail = st.jail := by
    intro c hc
    obtain ⟨ret, hret⟩ := launchWith_launch env st c
    rw [hret] at hc
    cases hc
    exact ⟨rfl, rfl⟩
  split at h
  · cases h
  split at h
  · exact hl _ h
  · split at h
    · cases h
    · exact hl _ h
  · cases h

/-- The cross-option rules of `parse_args`, over the options it received and the ELF type of
the launch. -/
structure CrossOptionRules (opts : List Opt) (elftype : ElfType) : Prop where
  chrootPivotRoot : ¬ (given opts 'C' ∧ given opts 'P')
  binding : given opts 'b' → given opts 'C' ∨ given opts 'P' ∨ given opts 'v'
  skipRemount : given opts 'K' → given opts 'v'
  supplGids : ¬ (given opts 'G' ∧ given opts 'y')
  ambient : given opts '\x80' → given opts 'c'
  seccomp : ¬ (given opts 's' ∧ given opts 'S')
  staticCaps : given opts 'c' → elftype = .ELFSTATIC → given opts '\x80'

/-- Options with no forbidden pair whose flags pass the checks after the loop satisfy every
cross-option rule. -/
theorem crossOptionRules_of {opts : List Opt} {elftype : ElfType} (hnc : NoConflict opts)
    (hpost : (flagsOf opts).PostRules elftype) : CrossOptionRules opts elftype :=
  ⟨hnc.2.1, hpost.binding, hpost.skipRemount, hnc.2.2, hpost.ambient, hnc.1, hpost.staticCaps⟩

theorem launch_crossOptionRules (env : Env) (argv : List String) (l : Launch)
    (h : (main env argv).launch = some l) : CrossOptionRules (options argv) l.elftype := by
  obtain ⟨st', program, rest, hargs, helf, -⟩ := main_launch h
  obtain ⟨st, hloop, htail⟩ := except_bind_eq_ok.1 hargs
  obtain ⟨hnc, hflags⟩ := options_flags hloop
  have hpost := (parseArgsTail_ok htail).1
  rw [hflags] at hpost
  exact crossOptionRules_of hnc (helf ▸ hpost)

theorem launch_crossOptionRules_mountNs :
    (main sampleEnv ["minijail0", "-v", "-b", "/a,/b", "-T", "static", "/bin/true"]).launch =
        some ⟨.ELFSTATIC, [.forwardSignals, .bind "/a" "/b" 0, .namespaceVfs], some 0⟩ ∧
      CrossOptionRules (options ["minijail0", "-v", "-b", "/a,/b", "-T", "static", "/bin/true"])
        .ELFSTATIC :=
  ⟨by decide, launch_crossOptionRules sampleEnv _
    ⟨.ELFSTATIC, [.forwardSignals, .bind "/a" "/b" 0, .namespaceVfs], some 0⟩ (by decide)⟩

end Minijail
