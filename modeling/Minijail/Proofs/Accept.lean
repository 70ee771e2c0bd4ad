import Minijail.Proofs.IdMap

/-!
# `Minijail.Proofs.Accept`: the argument vectors `parse_args` accepts

Take an environment in which every call on the jail returns 0 (`hjail`) and in which the target
program is the same file whatever the jail (`hpath`). Then whether `parse_args` returns depends
on the options only through three things. Each option must be well formed on its own
(`Opt.WellFormed`: its argument parses, its names are known). No forbidden pair may be present
(`NoConflict`). And the flags `flagsOf` must pass the checks after the loop (`Accepts`).
`parseArgs_ok_iff` states this.

The proof follows the code. `parseOpt_ok_iff` is one turn of the loop, `loop_ok_iff` the whole
loop by induction, and `tailSteps_ok_iff` and `tailTarget_ok_iff` are the two parts of the tail.
-/

set_option autoImplicit false

namespace Minijail

open Libc

/-! ### Calls that succeed -/

section Succeeds

variable {env : Env} (hjail : ∀ j c, env.jail j c = some 0)
include hjail

theorem Jail.call_of_succeeds (j : Jail) (c : JailCall) : j.call env c = .ok (c :: j) := by
  simp [Jail.call, Jail.callRet, hjail, Except.map]

theorem Jail.check_of_succeeds (j : Jail) (c : JailCall) (msg : String) :
    j.check env c msg = .ok (c :: j) := by
  simp [Jail.check, Jail.callRet, hjail]

/-- With every call succeeding, `add_binding` accepts an argument with two non-empty pieces. -/
theorem addBinding_ok_iff (j : Jail) (arg : String) :
    (∃ j', addBinding env j arg = .ok j') ↔ 2 ≤ (pieces ',' arg.data).length := by
  unfold addBinding
  simp only [strtok_fst, pieces_strtok_snd]
  rcases pieces ',' arg.data with _ | ⟨a, _ | ⟨b, rest⟩⟩ <;>
    simp [Jail.check_of_succeeds hjail]

theorem addRlimit_ok_iff (j : Jail) (arg : String) :
    (∃ j', addRlimit env j arg = .ok j') ↔ 3 ≤ (pieces ',' arg.data).length := by
  unfold addRlimit
  simp only [strtok_fst, pieces_strtok_snd]
  rcases pieces ',' arg.data with _ | ⟨a, _ | ⟨b, _ | ⟨c, rest⟩⟩⟩ <;>
    simp [Jail.check_of_succeeds hjail]

theorem addMount_ok_iff (j : Jail) (arg : String) :
    (∃ j', addMount env j arg = .ok j') ↔ 3 ≤ (pieces ',' arg.data).length := by
  unfold addMount
  simp only [strtok_fst, pieces_strtok_snd]
  rcases pieces ',' arg.data with _ | ⟨a, _ | ⟨b, _ | ⟨c, rest⟩⟩⟩ <;>
    simp [Jail.check_of_succeeds hjail]

theorem hexMaskOption_ok_iff (what : String) (call : UInt64 → JailCall) (j : Jail)
    (arg : String) :
    (∃ j', hexMaskOption what call env j arg = .ok j') ↔ (strtoull arg.data 16).2 = [] := by
  unfold hexMaskOption
  by_cases h : (strtoull arg.data 16).2 = [] <;> simp [h, Jail.call_of_succeeds hjail]

theorem setUser_ok_iff (j : Jail) (arg : String) (gid : UInt32) :
    (∃ r, setUser env j arg gid = .ok r) ↔
      ((strtod arg.data).endptr = [] ∧ arg.data ≠ []) ∨ (env.lookupUser arg).isSome := by
  unfold setUser
  dsimp only
  split_ifs with h
  · simp [h, Jail.call_of_succeeds hjail, Except.map]
  · rcases hl : env.lookupUser arg with _ | ⟨uid, g⟩ <;>
      simp [h, hl, Jail.check_of_succeeds hjail, Except.map]

theorem setGroup_ok_iff (j : Jail) (arg : String) :
    (∃ r, setGroup env j arg = .ok r) ↔
      ((strtod arg.data).endptr = [] ∧ arg.data ≠ []) ∨ (env.lookupGroup arg).isSome := by
  unfold setGroup
  dsimp only
  split_ifs with h
  · simp [h, Jail.call_of_succeeds hjail, Except.map]
  · rcases hl : env.lookupGroup arg with _ | g <;>
      simp [h, hl, Jail.check_of_succeeds hjail, Except.map]

end Succeeds

/-! ### One turn and the whole loop -/

/-- The options `parse_args` accepts on their own when every call on the jail succeeds: the
argument parses, and the names it looks up are known. -/
def Opt.WellFormed (env : Env) : Opt → Prop
  | .u user => ((strtod user.data).endptr = [] ∧ user.data ≠ []) ∨ (env.lookupUser user).isSome
  | .g group => ((strtod group.data).endptr = [] ∧ group.data ≠ []) ∨ (env.lookupGroup group).isSome
  | .S file => file.utf8ByteSize < pathMax
  | .b binding => 2 ≤ (pieces ',' binding.data).length
  | .B mask | .c mask => (strtoull mask.data 16).2 = []
  | .k mount => 3 ≤ (pieces ',' mount.data).length
  | .R rlimit => 3 ≤ (pieces ',' rlimit.data).length
  | .t (some size) => (env.parseSize size).isSome
  | .T type => type = "static" ∨ type = "dynamic"
  | .logging system => system = "syslog" ∨ system = "stderr"
  | .H | .h | .unknown => False
  | _ => True

section Loop

variable {env : Env} (hjail : ∀ j c, env.jail j c = some 0)
include hjail

theorem ParseState.call_of_succeeds (st : ParseState) (c : JailCall) :
    st.call env c = .ok { st with jail := c :: st.jail } := by
  simp [ParseState.call, Jail.call_of_succeeds hjail, Except.map]

theorem ParseState.check_of_succeeds (st : ParseState) (c : JailCall) (msg : String) :
    st.check env c msg = .ok { st with jail := c :: st.jail } := by
  simp [ParseState.check, Jail.check_of_succeeds hjail, Except.map]

theorem parseOpt_ok_iff (st : ParseState) (o : Opt) :
    (∃ st', parseOpt env st o = .ok st') ↔ o.WellFormed env ∧ ¬ st.flags.Conflict o := by
  have hcall := ParseState.call_of_succeeds hjail
  have hcheck := ParseState.check_of_succeeds hjail
  cases o
  case t size =>
    rcases size with _ | size
    · simp [parseOpt, Opt.WellFormed, Flags.Conflict, hcall]
    · cases h : env.parseSize size <;> simp [parseOpt, Opt.WellFormed, Flags.Conflict, hcall, h]
  case e file => cases file <;> simp [parseOpt, Opt.WellFormed, Flags.Conflict, hcall]
  case uts name => cases name <;> simp [parseOpt, Opt.WellFormed, Flags.Conflict, hcall]
  case s | S | C | P | G | y | T | logging =>
    simp only [parseOpt, hcall, hcheck, except_ok_bind]
    split_ifs <;> simp_all [Opt.WellFormed, Flags.Conflict]
  all_goals simp [parseOpt, Opt.WellFormed, Flags.Conflict, hcall, hcheck, setUser_ok_iff hjail,
    setGroup_ok_iff hjail, addBinding_ok_iff hjail, addMount_ok_iff hjail, addRlimit_ok_iff hjail,
    skipSecurebits, useCaps, hexMaskOption_ok_iff hjail]

/-- The whole loop, from flags `flagsOf pre`: it accepts `opts` exactly when every option of
`opts` is well formed and `pre ++ opts` has no forbidden pair. -/
theorem loop_ok_iff (opts : List Opt) : ∀ (pre : List Opt) (st : ParseState),
    NoConflict pre → st.flags = flagsOf pre →
    ((∃ st', opts.foldlM (parseOpt env) st = .ok st') ↔
      (∀ o ∈ opts, o.WellFormed env) ∧ NoConflict (pre ++ opts)) := by
  induction opts with
  | nil =>
    intro pre st hpre _
    rw [List.append_nil]
    exact ⟨fun _ => ⟨by simp, hpre⟩, fun _ => ⟨st, rfl⟩⟩
  | cons o opts ih =>
    intro pre st hpre hst
    simp only [List.foldlM_cons, List.forall_mem_cons]
    constructor
    · rintro ⟨st', h⟩
      obtain ⟨s, hs, hrest⟩ := except_bind_eq_ok.1 h
      have hc : ¬ (flagsOf pre).Conflict o := hst ▸ parseOpt_noConflict hs
      have hflags : s.flags = flagsOf (pre ++ [o]) := by
        rw [parseOpt_flags hs, hst, flagsOf_append_singleton hc]
      obtain ⟨hall, hnc⟩ :=
        (ih _ s ((noConflict_append_singleton o hpre).2 hc) hflags).1 ⟨st', hrest⟩
      exact ⟨⟨((parseOpt_ok_iff hjail st o).1 ⟨s, hs⟩).1, hall⟩, by simpa using hnc⟩
    · rintro ⟨⟨hwf, hall⟩, hnc⟩
      rw [← List.singleton_append, ← List.append_assoc] at hnc
      have hc := (noConflict_append_singleton o hpre).1 hnc.of_append
      obtain ⟨s, hs⟩ := (parseOpt_ok_iff hjail st o).2 ⟨hwf, hst ▸ hc⟩
      have hflags : s.flags = flagsOf (pre ++ [o]) := by
        rw [parseOpt_flags hs, hst, flagsOf_append_singleton hc]
      obtain ⟨st', h'⟩ := (ih _ s hnc.of_append hflags).2 ⟨hall, hnc⟩
      exact ⟨st', except_bind_eq_ok.2 ⟨s, hs, h'⟩⟩

/-- The option loop of `parse_args` from its initial state. -/
theorem options_ok_iff (opts : List Opt) :
    (∃ st, opts.foldlM (parseOpt env) {} = .ok st) ↔
      (∀ o ∈ opts, o.WellFormed env) ∧ NoConflict opts := by
  simpa using loop_ok_iff hjail opts [] {} (by simp [NoConflict]) rfl

end Loop

/-! ### The tail -/

section Tail

variable {env : Env} (hjail : ∀ j c, env.jail j c = some 0)
include hjail

theorem setUidMapping_of_succeeds (j : Jail) (uid : UInt32) (uidmap : Option String) :
    ∃ j', setUidMapping env j uid uidmap = .ok j' := by
  obtain ⟨m, hm⟩ : ∃ m, idMapOrDefault uidmap uid env.getuid = .ok m := by
    cases uidmap
    · simpa only [idMapOrDefault] using buildIdmap_ok uid env.getuid
    · exact ⟨_, rfl⟩
  simp [setUidMapping, hm, Jail.call_of_succeeds hjail, Jail.check_of_succeeds hjail]

theorem setGidMapping_of_succeeds (j : Jail) (gid : UInt32) (gidmap : Option String)
    (hcap : (hasCapSetgid env.capSetgid).isOk) :
    ∃ j', setGidMapping env j gid gidmap = .ok j' := by
  obtain ⟨cap, hc⟩ : ∃ cap, hasCapSetgid env.capSetgid = .ok cap := by
    cases h : hasCapSetgid env.capSetgid
    · simp [h, Except.isOk, Except.toBool] at hcap
    · exact ⟨_, rfl⟩
  obtain ⟨m, hm⟩ : ∃ m, idMapOrDefault gidmap gid env.getgid = .ok m := by
    cases gidmap
    · simpa only [idMapOrDefault] using buildIdmap_ok gid env.getgid
    · exact ⟨_, rfl⟩
  cases cap <;> simp [setGidMapping, hm, hc, Jail.call_of_succeeds hjail,
    Jail.check_of_succeeds hjail]

theorem setUpIdMaps_of_succeeds (st : ParseState)
    (hcap : st.setGidmap → (hasCapSetgid env.capSetgid).isOk) :
    ∃ j, setUpIdMaps env st = .ok { st with jail := j } := by
  unfold setUpIdMaps setUgidMapping
  split
  · obtain ⟨j₁, h₁⟩ : ∃ j₁, (if st.setUidmap then setUidMapping env st.jail st.uid st.uidmap
        else .ok st.jail) = .ok j₁ := by
      split
      · exact setUidMapping_of_succeeds hjail _ _ _
      · exact ⟨_, rfl⟩
    obtain ⟨j₂, h₂⟩ : ∃ j₂, (if st.setGidmap then setGidMapping env j₁ st.gid st.gidmap
        else .ok j₁) = .ok j₂ := by
      split
      · exact setGidMapping_of_succeeds hjail _ _ _ (hcap ‹_›)
      · exact ⟨_, rfl⟩
    exact ⟨j₂, by rw [h₁, except_ok_bind, h₂]; rfl⟩
  · exact ⟨st.jail, rfl⟩

theorem preserveStderr_of_succeeds (st : ParseState) :
    ∃ j, preserveStderr env st = .ok { st with jail := j } := by
  unfold preserveStderr
  split
  · exact ⟨_, ParseState.check_of_succeeds hjail st _ _⟩
  · exact ⟨st.jail, rfl⟩

theorem forwardSignals_of_succeeds (st : ParseState) :
    ∃ j, forwardSignals env st = .ok { st with jail := j } := by
  unfold forwardSignals
  split
  · exact ⟨_, ParseState.call_of_succeeds hjail st _⟩
  · exact ⟨st.jail, rfl⟩

theorem parseSeccompFilters_of_succeeds (st : ParseState) :
    ∃ j, parseSeccompFilters env st = .ok { st with jail := j } := by
  unfold parseSeccompFilters
  split
  · exact ⟨_, ParseState.call_of_succeeds hjail st _⟩
  · exact ⟨st.jail, rfl⟩

/-- The steps before the target succeed exactly when the three rules hold and, under `-M`,
the libcap probe succeeds. -/
theorem tailSteps_ok_iff (st : ParseState) :
    (∃ s, tailSteps env st = .ok s) ↔
      st.flags.TailRules ∧ (st.setGidmap → (hasCapSetgid env.capSetgid).isOk) := by
  refine ⟨fun ⟨s, hs⟩ => (tailSteps_ok hs).2, fun ⟨hrules, hcap⟩ => ?_⟩
  obtain ⟨j₁, h₁⟩ := preserveStderr_of_succeeds hjail st
  obtain ⟨j₂, h₂⟩ := setUpIdMaps_of_succeeds hjail { st with jail := j₁ } hcap
  obtain ⟨j₄, h₄⟩ := forwardSignals_of_succeeds hjail { st with jail := j₂ }
  obtain ⟨j₇, h₇⟩ := parseSeccompFilters_of_succeeds hjail { st with jail := j₄ }
  dsimp only at h₂ h₄ h₇
  have ha : (st.ambientCaps && !st.caps) = false := by simpa using hrules.ambient
  have hb : (st.binding && !(st.chroot || st.pivotRoot || st.mountNs)) = false := by
    simpa [or_iff_not_imp_left] using hrules.binding
  have hs : (st.skipRemount && !st.mountNs) = false := by simpa using hrules.skipRemount
  simp only [tailSteps, h₁, h₂, h₄, h₇, refuseIf, ha, hb, hs, except_ok_bind,
    Bool.false_eq_true, ite_false]
  exact ⟨_, rfl⟩

end Tail

/-- The ELF type `parse_args` ends with for the flags `f` and the target `program`: the one `-T`
gave, or the one `get_elf_linkage` reads from the target. -/
def finalElfType (env : Env) (f : Flags) (program : String) : ElfType :=
  if f.elftype = .ELFERROR then env.getElfLinkage (env.getOriginalPath [] program) else f.elftype

/-- What the tail requires of `argv` from `optind`: a target program, executable when `-T` did
not give the type, and the check on capabilities for its final ELF type. -/
def TargetOk (env : Env) (f : Flags) : List String → Prop
  | [] => False
  | program :: _ =>
    (f.elftype = .ELFERROR → env.access (env.getOriginalPath [] program)) ∧
      (f.caps → finalElfType env f program = .ELFSTATIC → f.ambientCaps)

/-- The target part of the tail, for a target that does not depend on the jail. -/
theorem tailTarget_ok_iff {env : Env}
    (hpath : ∀ j, env.getOriginalPath j = env.getOriginalPath [])
    (operands : List String) (st : ParseState) :
    (∃ r, tailTarget env operands st = .ok r) ↔ TargetOk env st.flags operands := by
  rcases operands with _ | ⟨program, rest⟩
  · simp [tailTarget, TargetOk]
  · simp only [tailTarget, probeElfType, hpath, TargetOk, finalElfType, ParseState.flags_elftype,
      ParseState.flags_caps, ParseState.flags_ambientCaps]
    split_ifs <;> simp_all [refuseIf]

/-- What `parse_args` requires of the options `opts` it receives and of `argv` from `optind`,
when every call on the jail succeeds and the target does not depend on the jail. -/
structure Accepts (env : Env) (opts : List Opt) (operands : List String) : Prop where
  wellFormed : ∀ o ∈ opts, o.WellFormed env
  noConflict : NoConflict opts
  tailRules : (flagsOf opts).TailRules
  capProbe : given opts 'M' → (hasCapSetgid env.capSetgid).isOk
  target : TargetOk env (flagsOf opts) operands

theorem parseArgs_ok_iff {env : Env} (hjail : ∀ j c, env.jail j c = some 0)
    (hpath : ∀ j, env.getOriginalPath j = env.getOriginalPath []) (argv : List String) :
    (∃ r, parseArgs env argv = .ok r) ↔ Accepts env (options argv) (operands argv) := by
  constructor
  · rintro ⟨r, h⟩
    obtain ⟨st, hloop, htail⟩ := except_bind_eq_ok.1 h
    obtain ⟨hnc, hflags⟩ := options_flags hloop
    obtain ⟨s, hs, ht⟩ := except_bind_eq_ok.1 ((parseArgsTail_eq env st _).symm.trans htail)
    obtain ⟨es, hrules, hcap⟩ := tailSteps_ok hs
    have htarget := (tailTarget_ok_iff hpath _ s).1 ⟨r, ht⟩
    rw [es, hflags] at htarget
    rw [hflags] at hrules
    refine ⟨((options_ok_iff hjail _).1 ⟨st, hloop⟩).1, hnc, hrules, fun hM => hcap ?_,
      htarget⟩
    rwa [← ParseState.flags_setGidmap, hflags]
  · rintro ⟨hwf, hnc, hrules, hcap, htarget⟩
    obtain ⟨st, hloop⟩ := (options_ok_iff hjail _).2 ⟨hwf, hnc⟩
    have hflags := (options_flags hloop).2
    obtain ⟨s, hs⟩ := (tailSteps_ok_iff hjail st).2
      ⟨hflags ▸ hrules, fun h => hcap (by rwa [← ParseState.flags_setGidmap, hflags] at h)⟩
    obtain ⟨r, hr⟩ := (tailTarget_ok_iff hpath _ s).2
      (by rw [(tailSteps_ok hs).1, hflags]; exact htarget)
    exact ⟨r, except_bind_eq_ok.2 ⟨st, hloop, except_bind_eq_ok.2 ⟨s, hs, hr⟩⟩⟩

example :
    (∀ j c, sampleEnv.jail j c = some 0) ∧
      (∀ j, sampleEnv.getOriginalPath j = sampleEnv.getOriginalPath []) ∧
      ((∃ r, parseArgs sampleEnv ["minijail0", "-v", "-b", "/a,/b", "/bin/true"] = .ok r) ↔
        Accepts sampleEnv (options ["minijail0", "-v", "-b", "/a,/b", "/bin/true"])
          (operands ["minijail0", "-v", "-b", "/a,/b", "/bin/true"])) :=
  ⟨fun _ _ => rfl, fun _ => rfl, parseArgs_ok_iff (fun _ _ => rfl) (fun _ => rfl) _⟩

/-- `-t` enters a new mount namespace (`minijail_namespace_vfs`), yet `parse_args` refuses a
bind mount with it: only `-v` sets `mount_ns`. -/
theorem binding_refused_after_tmpfs :
    ((options ["minijail0", "-t", "-b", "/a,/b", "-T", "static", "/bin/true"]).foldlM
        (parseOpt sampleEnv) {}).map (fun st => decide (JailCall.namespaceVfs ∈ st.jail)) =
      .ok true ∧
    parseArgs sampleEnv ["minijail0", "-t", "-b", "/a,/b", "-T", "static", "/bin/true"] =
      .error (.error bindingMessage) :=
  ⟨rfl, rfl⟩

end Minijail
