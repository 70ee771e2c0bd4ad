import Minijail.Proofs.IdMap

/-!
# `Minijail.Proofs.Handover`: the jail of a launch, from the command line

`parse_args` builds its jail in a loop over the options with early exits, then in a fixed
sequence of steps (`minijail0.c`, lines 363-704). This module gives the jail of every launch as a
function of the options and the environment (`jailOf`). It is the calls of the options in their
order (`callsOf`), with the calls of the steps after the loop on top (`tailCalls`), in the order
the code makes them:

* `minijail_preserve_fd (j, 2, 2)` when the last `--logging` chose `stderr`;
* the calls of the uid map under `-m`, then those of the gid map under `-M`;
* `minijail_forward_signals` unless `-z` was given;
* `minijail_parse_seccomp_filters` with the file of the last `-S`.

The steps read locals the loop writes: `forward`, `filter_path` and `log_to_stderr`
(`TailState`), the ids and the maps (`IdState`), and `set_gidmap`. An accepted option changes the
first by `TailState.update` (`parseOpt_tailState`), so the loop leaves `tailStateOf` its options
(`loop_tailState`). Each step adds its own calls and changes nothing else (`preserveStderr_eq`,
`setUpIdMaps_eq`, `forwardSignals_eq`, `parseSeccompFilters_eq`), which gives `tailSteps_jail`.

`parseArgs_jail` is the refinement of the stateful `parse_args` by `jailOf`, and
`launch_jail_eq` carries it to every launch. Only the filter of the last `-S` is parsed, after
every other call, and signals are forwarded exactly when `-z` was not given. `launch_jail` reads
off the same lemma that the tail adds only calls of the kinds `tailCall` names on top of the calls
of the options; `launch_idMaps` states that the map calls are there.
-/

set_option autoImplicit false

namespace Minijail

open Libc

/-! ### The locals the tail reads -/

/-- The locals of `parse_args` that decide the steps after the loop, besides the ids, the maps
and `set_gidmap`. -/
structure TailState where
  forward : Bool
  filterPath : Option String
  logToStderr : Bool
  deriving DecidableEq, Repr

/-- The tail state of a state of `parse_args`. -/
@[simps] def ParseState.tailState (st : ParseState) : TailState :=
  ⟨st.forward, st.filterPath, st.logToStderr⟩

/-- What an accepted option does to the tail state: `-z` stops the forwarding of signals, `-S`
names the filter, and `--logging` chooses where to log. -/
def TailState.update (s : TailState) : Opt → TailState
  | .z => { s with forward := false }
  | .S file => { s with filterPath := some file }
  | .logging system => { s with logToStderr := decide (system = "stderr") }
  | _ => s

/-- The tail state after a loop that accepted `opts`, from the values the locals start with. -/
def tailStateOf (opts : List Opt) : TailState :=
  opts.foldl TailState.update ⟨true, none, false⟩

section Loop

variable {env : Env}

theorem parseOpt_tailState {st st' : ParseState} {o : Opt} (h : parseOpt env st o = .ok st') :
    st'.tailState = st.tailState.update o := by
  rw [(parseOpt_apply h).2]
  cases o <;> rfl

/-- The run lemma of the loop for the tail state. -/
theorem loop_tailState (opts : List Opt) : ∀ st st' : ParseState,
    opts.foldlM (parseOpt env) st = .ok st' →
      st'.tailState = opts.foldl TailState.update st.tailState := by
  induction opts with
  | nil => rintro st st' ⟨⟩; rfl
  | cons o opts ih =>
    intro st st' h
    rw [List.foldlM_cons] at h
    obtain ⟨s, hs, hrest⟩ := except_bind_eq_ok.1 h
    rw [ih s st' hrest, parseOpt_tailState hs, List.foldl_cons]

end Loop

/-! ### The calls of the tail -/

/-- The map `set_ugid_mapping` writes for one side: the map of `-m` or `-M`, or the output of
`build_idmap (id, callerId)`. -/
def idMapText (map : Option String) (id callerId : UInt32) : String :=
  map.getD ⟨formatD (signedOf id) ++ ' ' :: formatD (signedOf callerId) ++ " 1".data⟩

theorem idMapOrDefault_eq (map : Option String) (id callerId : UInt32) :
    idMapOrDefault map id callerId = .ok (idMapText map id callerId) := by
  cases map
  · exact buildIdmap_eq id callerId
  · rfl

/-- The calls of the steps after the loop, latest first, from the tail state `t`, the id state
`ids` and `set_gidmap`. `cap` is the answer of the libcap probe, which only the gid map reads. -/
def tailCalls (env : Env) (t : TailState) (ids : IdState) (setGidmap cap : Bool) : Jail :=
  t.filterPath.toList.map .parseSeccompFilters ++
    (if t.forward then [.forwardSignals] else []) ++
    (if setGidmap then gidMapCalls (idMapText ids.gidmap ids.gid env.getgid) cap else []) ++
    (if ids.setUidmap then uidMapCalls (idMapText ids.uidmap ids.uid env.getuid) else []) ++
    (if t.logToStderr then [.preserveFd 2 2] else [])

/-- The jail a launch hands over for the options `opts`: the calls of the options, then those of
the tail. -/
def jailOf (env : Env) (opts : List Opt) (cap : Bool) : Jail :=
  tailCalls env (tailStateOf opts) (idsOf env opts) (given opts 'M') cap ++ callsOf env opts

/-- The calls the steps after the loop make: `minijail_preserve_fd (j, 2, 2)`, the calls of
`set_ugid_mapping`, `minijail_forward_signals` and `minijail_parse_seccomp_filters`. -/
def tailCall : JailCall → Bool
  | .preserveFd 2 2 | .namespaceUser | .namespacePids | .uidmap _ | .gidmap _
  | .namespaceUserDisableSetgroups | .forwardSignals | .parseSeccompFilters _ => true
  | _ => false

theorem tailCalls_tailCall (env : Env) (t : TailState) (ids : IdState) (setGidmap cap : Bool) :
    ∀ c ∈ tailCalls env t ids setGidmap cap, tailCall c := by
  have hall : (tailCalls env t ids setGidmap cap).all tailCall := by
    simp only [tailCalls, List.all_append, Bool.and_eq_true]
    refine ⟨⟨⟨⟨?_, ?_⟩, ?_⟩, ?_⟩, ?_⟩
    · cases t.filterPath <;> rfl
    · split <;> rfl
    · -- the gid map, with `setgroups` disabled only without `CAP_SETGID`
      split
      · cases cap <;> rfl
      · rfl
    · split <;> rfl
    · split <;> rfl
  simpa using hall

section Steps

variable {env : Env} {st st' : ParseState}

theorem preserveStderr_eq (h : preserveStderr env st = .ok st') :
    st' = { st with jail := (if st.logToStderr then [.preserveFd 2 2] else []) ++ st.jail } := by
  unfold preserveStderr at h
  split at h <;> rename_i hl
  · obtain ⟨-, rfl⟩ := ParseState.check_eq_ok.1 h
    rw [if_pos hl]
    rfl
  · cases h
    rw [if_neg hl]
    rfl

theorem setUpIdMaps_eq (h : setUpIdMaps env st = .ok st') :
    ∃ cap, (st.setGidmap → hasCapSetgid env.capSetgid = .ok cap) ∧
      st' = { st with jail :=
        (if st.setGidmap then gidMapCalls (idMapText st.gidmap st.gid env.getgid) cap else []) ++
          (if st.setUidmap then uidMapCalls (idMapText st.uidmap st.uid env.getuid) else []) ++
          st.jail } := by
  unfold setUpIdMaps at h
  split at h
  · obtain ⟨j, hj, rfl⟩ := except_map_eq_ok.1 h
    obtain ⟨j₁, h₁, h₂⟩ := except_bind_eq_ok.1 hj
    -- the uid block, then the gid block
    have e₁ : j₁ =
        (if st.setUidmap then uidMapCalls (idMapText st.uidmap st.uid env.getuid) else []) ++
          st.jail := by
      split at h₁ <;> rename_i hu
      · obtain ⟨map, hmap, rfl⟩ := setUidMapping_eq_ok h₁
        cases (idMapOrDefault_eq _ _ _).symm.trans hmap
        rw [if_pos hu]
      · cases h₁
        rw [if_neg hu]
        rfl
    split at h₂ <;> rename_i hg
    · obtain ⟨map, cap, hmap, hcap, rfl⟩ := setGidMapping_eq_ok h₂
      cases (idMapOrDefault_eq _ _ _).symm.trans hmap
      exact ⟨cap, fun _ => hcap, by rw [e₁, if_pos hg, List.append_assoc]⟩
    · cases h₂
      exact ⟨false, fun h => absurd h hg, by rw [e₁, if_neg hg]; rfl⟩
  · -- neither `-m` nor `-M`: no call
    rename_i hno
    cases h
    have hu : ¬ st.setUidmap = true := fun hu => hno (by simp [hu])
    have hg : ¬ st.setGidmap = true := fun hg => hno (by simp [hg])
    exact ⟨false, fun h => absurd h hg, by rw [if_neg hg, if_neg hu]; rfl⟩

theorem forwardSignals_eq (h : forwardSignals env st = .ok st') :
    st' = { st with jail := (if st.forward then [.forwardSignals] else []) ++ st.jail } := by
  unfold forwardSignals at h
  split at h <;> rename_i hf
  · obtain ⟨-, rfl⟩ := ParseState.call_eq_ok.1 h
    rw [if_pos hf]
    rfl
  · cases h
    rw [if_neg hf]
    rfl

theorem parseSeccompFilters_eq (h : parseSeccompFilters env st = .ok st') :
    st' = { st with jail := st.filterPath.toList.map .parseSeccompFilters ++ st.jail } := by
  unfold parseSeccompFilters at h
  split at h
  · rename_i path hp
    obtain ⟨-, rfl⟩ := ParseState.call_eq_ok.1 h
    rw [show st.filterPath.toList.map JailCall.parseSeccompFilters = [.parseSeccompFilters path]
      by rw [hp]; rfl]
    rfl
  · rename_i hp
    cases h
    rw [show st.filterPath.toList.map JailCall.parseSeccompFilters = [] by rw [hp]; rfl]
    rfl

/-- The steps before the target add `tailCalls` of the locals the loop left. -/
theorem tailSteps_jail (h : tailSteps env st = .ok st') :
    ∃ cap, (st.setGidmap → hasCapSetgid env.capSetgid = .ok cap) ∧
      st'.jail = tailCalls env st.tailState st.ids st.setGidmap cap ++ st.jail := by
  simp only [tailSteps, except_bind_eq_ok] at h
  obtain ⟨s₆, ⟨s₅, ⟨s₄, ⟨s₃, ⟨s₂, ⟨s₁, h₁, h₂⟩, h₃⟩, h₄⟩, h₅⟩, h₆⟩, h₇⟩ := h
  obtain ⟨-, rfl⟩ := refuseIf_eq_ok.1 h₃
  obtain ⟨-, rfl⟩ := refuseIf_eq_ok.1 h₅
  obtain ⟨-, rfl⟩ := refuseIf_eq_ok.1 h₆
  obtain rfl := preserveStderr_eq h₁
  obtain ⟨cap, hcap, rfl⟩ := setUpIdMaps_eq h₂
  obtain rfl := forwardSignals_eq h₄
  obtain rfl := parseSeccompFilters_eq h₇
  exact ⟨cap, hcap, by simp only [tailCalls, List.append_assoc]; rfl⟩

end Steps

/-! ### Whole runs -/

/-- The jail an accepted `parse_args` hands `main` is `jailOf` the options `getopt_long` handed
to the loop. -/
theorem parseArgs_jail {env : Env} {argv : List String} {st : ParseState} {program : String}
    {rest : List String} (h : parseArgs env argv = .ok (st, program, rest)) :
    ∃ cap, (given (options argv) 'M' → hasCapSetgid env.capSetgid = .ok cap) ∧
      st.jail = jailOf env (options argv) cap := by
  obtain ⟨s₀, hloop, htail⟩ := except_bind_eq_ok.1 h
  obtain ⟨s, hs, ht⟩ := except_bind_eq_ok.1 ((parseArgsTail_eq env s₀ _).symm.trans htail)
  obtain ⟨cap, hcap, hj⟩ := tailSteps_jail hs
  -- the loop left the calls, the tail state, the ids and `set_gidmap` of its options
  have hids : s₀.ids = idsOf env (options argv) := loop_ids _ {} s₀ hloop
  have hstate : s₀.tailState = tailStateOf (options argv) := loop_tailState _ {} s₀ hloop
  have hM : s₀.setGidmap = given (options argv) 'M' := by
    rw [← ParseState.flags_setGidmap, (options_flags hloop).2]
    rfl
  refine ⟨cap, hM ▸ hcap, ?_⟩
  rw [tailTarget_jail ht, hj, hids, hstate, hM, options_jail hloop]
  rfl

/-- The jail of every launch is `jailOf` the options `getopt_long` handed to the loop: the calls
of the options in their order, then stderr kept open under `--logging=stderr`, the uid map under
`-m`, the gid map under `-M`, the forwarding of signals without `-z`, and last the seccomp filter
of the last `-S`. `cap` is the answer of the libcap probe. -/
theorem launch_jail_eq (env : Env) (argv : List String) (l : Launch)
    (h : (main env argv).launch = some l) :
    ∃ cap, (given (options argv) 'M' → hasCapSetgid env.capSetgid = .ok cap) ∧
      l.jail = jailOf env (options argv) cap := by
  obtain ⟨st, program, rest, hargs, -, hjail⟩ := main_launch h
  rw [hjail]
  exact parseArgs_jail hargs

theorem launch_jail_eq_filters :
    (main sampleEnv ["minijail0", "-S", "a", "-S", "b", "--logging=stderr", "-m", "-T",
        "static", "/bin/true"]).launch =
      some ⟨.ELFSTATIC, [.parseSeccompFilters "b", .forwardSignals, .uidmap "0 1000 1",
        .namespacePids, .namespaceUser, .preserveFd 2 2, .useSeccompFilter, .useSeccompFilter],
        some 0⟩ ∧
    ∃ cap, (given (options ["minijail0", "-S", "a", "-S", "b", "--logging=stderr", "-m", "-T",
        "static", "/bin/true"]) 'M' → hasCapSetgid sampleEnv.capSetgid = .ok cap) ∧
      [.parseSeccompFilters "b", .forwardSignals, .uidmap "0 1000 1", .namespacePids,
          .namespaceUser, .preserveFd 2 2, .useSeccompFilter, .useSeccompFilter] =
        jailOf sampleEnv (options ["minijail0", "-S", "a", "-S", "b", "--logging=stderr", "-m",
          "-T", "static", "/bin/true"]) cap :=
  ⟨by decide, launch_jail_eq sampleEnv _ ⟨.ELFSTATIC, [.parseSeccompFilters "b", .forwardSignals,
    .uidmap "0 1000 1", .namespacePids, .namespaceUser, .preserveFd 2 2, .useSeccompFilter,
    .useSeccompFilter], some 0⟩ (by decide)⟩

/-- The jail of every launch: the calls of the options `getopt_long` handed to the loop, in their
order, with only calls of the tail on top. -/
theorem launch_jail (env : Env) (argv : List String) (l : Launch)
    (h : (main env argv).launch = some l) :
    ∃ tail, l.jail = tail ++ callsOf env (options argv) ∧ ∀ c ∈ tail, tailCall c := by
  obtain ⟨st, program, rest, hargs, -, hjail⟩ := main_launch h
  obtain ⟨cap, -, hj⟩ := parseArgs_jail hargs
  exact ⟨_, hjail.trans hj, tailCalls_tailCall _ _ _ _ _⟩

theorem launch_jail_bind :
    (main sampleEnv ["minijail0", "-v", "-b", "/a,/b", "-T", "static", "/bin/true"]).launch =
        some ⟨.ELFSTATIC, [.forwardSignals, .bind "/a" "/b" 0, .namespaceVfs], some 0⟩ ∧
      ∃ tail, [.forwardSignals, .bind "/a" "/b" 0, .namespaceVfs] = tail ++
          callsOf sampleEnv
            (options ["minijail0", "-v", "-b", "/a,/b", "-T", "static", "/bin/true"]) ∧
        ∀ c ∈ tail, tailCall c :=
  ⟨by decide, launch_jail sampleEnv _
    ⟨.ELFSTATIC, [.forwardSignals, .bind "/a" "/b" 0, .namespaceVfs], some 0⟩ (by decide)⟩

end Minijail
