import Minijail.Proofs.Tail

/-!
# `Minijail.Proofs.IdMap`: the id maps `parse_args` builds

`build_idmap` formats `"%d %d 1"` into a buffer of `IDMAP_LEN` (32) bytes. An `int` takes at most
eleven characters, so the output takes at most 25 and the exit for an overlong map is never taken
(`buildIdmap_eq`). `%d` reads each `id_t` as an `int`, however. An id below `2^31` prints as its
unsigned decimal (`buildIdmap_of_lt`), and a larger one prints as a negative number, which the
kernel does not accept as an id.

`set_user` writes the user's primary gid into `parse_args`' `gid` when it looks a name up. A
`-u name` after `-g` therefore replaces the gid that `-g` gave the jail, and the gid map that
`-M` builds maps the user's gid instead.

`launch_idMaps` follows the ids through a whole run. The loop changes them only by
`IdState.update` (`parseOpt_ids`), so the ids it leaves are `idsOf` the options (`loop_ids`).
The steps after the loop make the calls of `set_ugid_mapping` from them (`tailSteps_idMaps`), and
no later step removes a call. A launch therefore holds, one after the other, the calls that enter
the user and pid namespaces and set the map of `-m` (`UidMapSet`), and those of `-M`, which
disable `setgroups` before the gid map when the caller lacks `CAP_SETGID` (`GidMapSet`).
-/

set_option autoImplicit false

namespace Minijail

open Libc

/-- `build_idmap` never takes its exit: its output is the two `%d` conversions, a space between
them, and `" 1"`. -/
theorem buildIdmap_eq (id lowerid : UInt32) :
    buildIdmap id lowerid =
      .ok ⟨formatD (signedOf id) ++ ' ' :: formatD (signedOf lowerid) ++ " 1".data⟩ := by
  have h₁ := formatD_length_le _ (signedOf_bounds id).1 (signedOf_bounds id).2
  have h₂ := formatD_length_le _ (signedOf_bounds lowerid).1 (signedOf_bounds lowerid).2
  unfold buildIdmap snprintf IDMAP_LEN
  generalize formatD (signedOf id) = a at h₁ ⊢
  generalize formatD (signedOf lowerid) = b at h₂ ⊢
  have hlen : (a ++ ' ' :: b ++ " 1".data).length ≤ 25 := by
    have : " 1".data.length = 2 := rfl
    rw [List.length_append, List.length_append, List.length_cons]
    omega
  show (if 32 ≤ (a ++ ' ' :: b ++ " 1".data).length then _
    else Except.ok (String.mk ((a ++ ' ' :: b ++ " 1".data).take 31))) = _
  rw [if_neg (by omega), List.take_of_length_le (by omega)]

theorem buildIdmap_ok (id lowerid : UInt32) : ∃ idmap, buildIdmap id lowerid = .ok idmap :=
  ⟨_, buildIdmap_eq id lowerid⟩

/-- `%d` of an id below `2^31` is its unsigned decimal. -/
theorem formatD_signedOf_of_lt (x : UInt32) (h : x.toNat < 2 ^ 31) :
    formatD (signedOf x) = Nat.toDigits 10 x.toNat := by
  rw [signedOf_eq, if_pos h]
  simp [formatD]

theorem buildIdmap_of_lt (id lowerid : UInt32) (hid : id.toNat < 2 ^ 31)
    (hlowerid : lowerid.toNat < 2 ^ 31) :
    buildIdmap id lowerid =
      .ok ⟨Nat.toDigits 10 id.toNat ++ ' ' :: Nat.toDigits 10 lowerid.toNat ++ " 1".data⟩ := by
  rw [buildIdmap_eq, formatD_signedOf_of_lt id hid, formatD_signedOf_of_lt lowerid hlowerid]

theorem buildIdmap_of_lt_root :
    (0 : UInt32).toNat < 2 ^ 31 ∧ (1000 : UInt32).toNat < 2 ^ 31 ∧
      buildIdmap 0 1000 = .ok "0 1000 1" :=
  ⟨by decide, by decide, (buildIdmap_of_lt 0 1000 (by decide) (by decide)).trans rfl⟩

theorem buildIdmap_prints_negative_id : buildIdmap 2147483648 1000 = .ok "-2147483648 1000 1" := by
  rfl

/-! ### The id maps of a launch -/

/-- The locals of `parse_args` that `set_ugid_mapping` reads, besides `set_gidmap` (a flag). -/
structure IdState where
  uid : UInt32
  gid : UInt32
  uidmap : Option String
  gidmap : Option String
  setUidmap : Bool

/-- The id state of a state of `parse_args`. -/
@[simps] def ParseState.ids (st : ParseState) : IdState :=
  ⟨st.uid, st.gid, st.uidmap, st.gidmap, st.setUidmap⟩

/-- What an accepted option does to the id state: `-u` and `-g` write the ids, and `-m` and `-M`
the maps. -/
def IdState.update (env : Env) (s : IdState) : Opt → IdState
  | .u user => { s with uid := (userIds env user s.gid).1, gid := (userIds env user s.gid).2 }
  | .g group => { s with gid := groupGid env group }
  | .m map => { s with uidmap := map, setUidmap := true }
  | .M map => { s with gidmap := map }
  | _ => s

/-- The id state after a loop that accepted `opts`: the ids that `-u` and `-g` write, in their
order, and the maps of the last `-m` and the last `-M`. -/
def idsOf (env : Env) (opts : List Opt) : IdState :=
  opts.foldl (IdState.update env) ⟨0, 0, none, none, false⟩

section Ids

variable {env : Env}

theorem parseOpt_ids {st st' : ParseState} {o : Opt} (h : parseOpt env st o = .ok st') :
    st'.ids = st.ids.update env o := by
  rw [(parseOpt_apply h).2]
  cases o <;> rfl

/-- The run lemma of the loop for the id state. -/
theorem loop_ids (opts : List Opt) : ∀ st st' : ParseState,
    opts.foldlM (parseOpt env) st = .ok st' →
      st'.ids = opts.foldl (IdState.update env) st.ids := by
  induction opts with
  | nil => rintro st st' ⟨⟩; rfl
  | cons o opts ih =>
    intro st st' h
    rw [List.foldlM_cons] at h
    obtain ⟨s, hs, hrest⟩ := except_bind_eq_ok.1 h
    rw [ih s st' hrest, parseOpt_ids hs, List.foldl_cons]

/-- `-m` is what sets `set_uidmap`. -/
theorem setUidmap_idsOf (opts : List Opt) : (idsOf env opts).setUidmap = given opts 'm' := by
  suffices ∀ s : IdState,
      (opts.foldl (IdState.update env) s).setUidmap = (s.setUidmap || given opts 'm') by
    simpa using this ⟨0, 0, none, none, false⟩
  induction opts with
  | nil => intro s; simp
  | cons o opts ih =>
    intro s
    rw [List.foldl_cons, ih]
    -- only `-m` moves the flag; for any other option both sides reduce to the same term
    cases o <;> first | rfl | simp [IdState.update, given, Opt.key]

end Ids

/-! ### The maps `set_ugid_mapping` sets -/

/-! ### The calls that set the id maps -/

/-- The calls of the `if (set_uidmap)` block of `set_ugid_mapping` for the map `map`, latest
first. -/
def uidMapCalls (map : String) : Jail := [.uidmap map, .namespacePids, .namespaceUser]

/-- The calls of the `if (set_gidmap)` block for the map `map`, latest first. Without
`CAP_SETGID` (`cap` false) the block disables `setgroups` before it writes the map. -/
def gidMapCalls (map : String) (cap : Bool) : Jail :=
  .gidmap map :: ((if cap then [] else [.namespaceUserDisableSetgroups]) ++
    [.namespacePids, .namespaceUser])

/-- The jail `j` holds the calls of the uid block, one after the other: the map of `-m`, or
`build_idmap (uid, getuid ())` without one. -/
def UidMapSet (env : Env) (uidmap : Option String) (uid : UInt32) (j : Jail) : Prop :=
  ∃ map, idMapOrDefault uidmap uid env.getuid = .ok map ∧ uidMapCalls map <:+: j

/-- The jail `j` holds the calls of the gid block, one after the other: the map of `-M`, or
`build_idmap (gid, getgid ())` without one, and `setgroups` disabled first unless the libcap probe
found `CAP_SETGID`. -/
def GidMapSet (env : Env) (gidmap : Option String) (gid : UInt32) (j : Jail) : Prop :=
  ∃ map cap, idMapOrDefault gidmap gid env.getgid = .ok map ∧
    hasCapSetgid env.capSetgid = .ok cap ∧ gidMapCalls map cap <:+: j

section Tail

variable {env : Env}

theorem UidMapSet.of_suffix {uidmap : Option String} {uid : UInt32} {j j' : Jail}
    (h : UidMapSet env uidmap uid j) (hs : j <:+ j') : UidMapSet env uidmap uid j' :=
  h.imp fun _ h => ⟨h.1, h.2.trans hs.isInfix⟩

theorem GidMapSet.of_suffix {gidmap : Option String} {gid : UInt32} {j j' : Jail}
    (h : GidMapSet env gidmap gid j) (hs : j <:+ j') : GidMapSet env gidmap gid j' :=
  h.imp fun _ => Exists.imp fun _ h => ⟨h.1, h.2.1, h.2.2.trans hs.isInfix⟩

/-- The `if (set_uidmap)` block sets the map of `-m`, or `build_idmap (uid, getuid ())`. -/
theorem setUidMapping_eq_ok {j j' : Jail} {uid : UInt32} {uidmap : Option String}
    (h : setUidMapping env j uid uidmap = .ok j') :
    ∃ map, idMapOrDefault uidmap uid env.getuid = .ok map ∧ j' = uidMapCalls map ++ j := by
  obtain ⟨j₁, h₁, h⟩ := except_bind_eq_ok.1 h
  obtain ⟨j₂, h₂, h⟩ := except_bind_eq_ok.1 h
  obtain ⟨map, hmap, h₃⟩ := except_bind_eq_ok.1 h
  obtain ⟨-, rfl⟩ := Jail.check_eq_ok.1 h₃
  obtain ⟨-, rfl⟩ := Jail.call_eq_ok.1 h₁
  obtain ⟨-, rfl⟩ := Jail.call_eq_ok.1 h₂
  exact ⟨map, hmap, rfl⟩

/-- The `if (set_gidmap)` block sets the map of `-M`, or `build_idmap (gid, getgid ())`, after
disabling `setgroups` when the probe found no `CAP_SETGID`. -/
theorem setGidMapping_eq_ok {j j' : Jail} {gid : UInt32} {gidmap : Option String}
    (h : setGidMapping env j gid gidmap = .ok j') :
    ∃ map cap, idMapOrDefault gidmap gid env.getgid = .ok map ∧
      hasCapSetgid env.capSetgid = .ok cap ∧ j' = gidMapCalls map cap ++ j := by
  obtain ⟨j₁, h₁, h⟩ := except_bind_eq_ok.1 h
  obtain ⟨j₂, h₂, h⟩ := except_bind_eq_ok.1 h
  obtain ⟨map, hmap, h⟩ := except_bind_eq_ok.1 h
  obtain ⟨cap, hcap, h⟩ := except_bind_eq_ok.1 h
  obtain ⟨j₃, h₃, h₄⟩ := except_bind_eq_ok.1 h
  obtain ⟨-, rfl⟩ := Jail.check_eq_ok.1 h₄
  obtain ⟨-, rfl⟩ := Jail.call_eq_ok.1 h₁
  obtain ⟨-, rfl⟩ := Jail.call_eq_ok.1 h₂
  refine ⟨map, cap, hmap, hcap, ?_⟩
  split at h₃ <;> rename_i hc
  · -- `CAP_SETGID`: the map right after the namespaces
    cases h₃
    simp [gidMapCalls, hc]
  · -- no `CAP_SETGID`: `setgroups` disabled first
    obtain ⟨-, rfl⟩ := Jail.call_eq_ok.1 h₃
    simp [gidMapCalls, hc]

/-- `set_ugid_mapping` leaves the calls of the uid block when `set_uidmap`, and those of the gid
block when `set_gidmap`. -/
theorem setUgidMapping_eq_ok {j j' : Jail} {setUidmap : Bool} {uid : UInt32}
    {uidmap : Option String} {setGidmap : Bool} {gid : UInt32} {gidmap : Option String}
    (h : setUgidMapping env j setUidmap uid uidmap setGidmap gid gidmap = .ok j') :
    (setUidmap → UidMapSet env uidmap uid j') ∧
      (setGidmap → GidMapSet env gidmap gid j') := by
  obtain ⟨j₁, h₁, h₂⟩ := except_bind_eq_ok.1 h
  have hgid : j₁ <:+ j' ∧ (setGidmap → GidMapSet env gidmap gid j') := by
    split at h₂
    · obtain ⟨map, cap, hmap, hcap, rfl⟩ := setGidMapping_eq_ok h₂
      exact ⟨List.suffix_append _ _,
        fun _ => ⟨map, cap, hmap, hcap, (List.prefix_append _ _).isInfix⟩⟩
    · cases h₂
      exact ⟨List.suffix_refl _, fun hg => absurd hg ‹_›⟩
  refine ⟨fun hu => ?_, hgid.2⟩
  rw [if_pos hu] at h₁
  obtain ⟨map, hmap, rfl⟩ := setUidMapping_eq_ok h₁
  exact UidMapSet.of_suffix ⟨map, hmap, (List.prefix_append _ _).isInfix⟩ hgid.1

/-- The block `if (set_uidmap || set_gidmap)` of `parse_args`. -/
theorem setUpIdMaps_eq_ok {st st' : ParseState} (h : setUpIdMaps env st = .ok st') :
    (st.setUidmap → UidMapSet env st.uidmap st.uid st'.jail) ∧
      (st.setGidmap → GidMapSet env st.gidmap st.gid st'.jail) := by
  unfold setUpIdMaps at h
  split at h
  · obtain ⟨j, hj, rfl⟩ := except_map_eq_ok.1 h
    exact setUgidMapping_eq_ok hj
  · rename_i hno
    simp only [Bool.or_eq_true, not_or, Bool.not_eq_true] at hno
    simp [hno]

theorem ParseState.suffix_of_call {st st' : ParseState} {c : JailCall}
    (h : st.call env c = .ok st') : st.jail <:+ st'.jail := by
  obtain ⟨-, rfl⟩ := ParseState.call_eq_ok.1 h
  exact List.suffix_cons _ _

/-- The steps of the tail before `argv[optind]` set the maps that `set_ugid_mapping` names, from
the id state the loop left. -/
theorem tailSteps_idMaps {st st' : ParseState} (h : tailSteps env st = .ok st') :
    (st.setUidmap → UidMapSet env st.uidmap st.uid st'.jail) ∧
      (st.setGidmap → GidMapSet env st.gidmap st.gid st'.jail) := by
  simp only [tailSteps, except_bind_eq_ok] at h
  obtain ⟨s₆, ⟨s₅, ⟨s₄, ⟨s₃, ⟨s₂, ⟨s₁, h₁, h₂⟩, h₃⟩, h₄⟩, h₅⟩, h₆⟩, h₇⟩ := h
  -- `preserve_fd` changes only the jail
  obtain ⟨j, rfl⟩ : ∃ j, s₁ = { st with jail := j } := by
    unfold preserveStderr at h₁
    split at h₁
    · obtain ⟨-, rfl⟩ := ParseState.check_eq_ok.1 h₁
      exact ⟨_, rfl⟩
    · cases h₁
      exact ⟨st.jail, rfl⟩
  obtain ⟨hu, hg⟩ := setUpIdMaps_eq_ok h₂
  -- the steps after `set_ugid_mapping` keep every call made so far
  have e₃ : s₃ = s₂ := (refuseIf_eq_ok.1 h₃).2
  have e₅ : s₅ = s₄ := (refuseIf_eq_ok.1 h₅).2
  have e₆ : s₆ = s₅ := (refuseIf_eq_ok.1 h₆).2
  have hfwd : s₃.jail <:+ s₄.jail := by
    unfold forwardSignals at h₄
    split at h₄
    · exact ParseState.suffix_of_call h₄
    · cases h₄
      exact List.suffix_refl _
  have hsec : s₆.jail <:+ st'.jail := by
    unfold parseSeccompFilters at h₇
    split at h₇
    · exact ParseState.suffix_of_call h₇
    · cases h₇
      exact List.suffix_refl _
  have hsuf : s₂.jail <:+ st'.jail := by
    rw [e₆, e₅] at hsec
    rw [← e₃]
    exact hfwd.trans hsec
  exact ⟨fun hs => (hu hs).of_suffix hsuf, fun hs => (hg hs).of_suffix hsuf⟩

/-- The steps on the target make no call on the jail. -/
theorem tailTarget_jail {operands : List String} {st : ParseState}
    {r : ParseState × String × List String} (h : tailTarget env operands st = .ok r) :
    r.1.jail = st.jail := by
  rcases operands with _ | ⟨program, rest⟩
  · cases h
  obtain ⟨s, hs, rfl⟩ := except_map_eq_ok.1 h
  obtain ⟨s₁, h₁, hs⟩ := except_bind_eq_ok.1 hs
  obtain ⟨-, rfl⟩ := refuseIf_eq_ok.1 hs
  unfold probeElfType at h₁
  split_ifs at h₁ <;> cases h₁ <;> rfl

end Tail

/-- A launch holds the calls that set the id map of `-m` and those of `-M`: the map the option
gave, or `build_idmap` of the id the options left and the caller's id. The id state is the loop's
fold of `IdState.update`, so a `-u name` after `-g` decides the gid of the gid map. -/
theorem launch_idMaps (env : Env) (argv : List String) (l : Launch)
    (h : (main env argv).launch = some l) :
    (given (options argv) 'm' →
      UidMapSet env (idsOf env (options argv)).uidmap (idsOf env (options argv)).uid l.jail) ∧
    (given (options argv) 'M' →
      GidMapSet env (idsOf env (options argv)).gidmap (idsOf env (options argv)).gid l.jail) := by
  obtain ⟨st', program, rest, hargs, -, hjail⟩ := main_launch h
  obtain ⟨st, hloop, htail⟩ := except_bind_eq_ok.1 hargs
  obtain ⟨s, hs, ht⟩ := except_bind_eq_ok.1 ((parseArgsTail_eq env st _).symm.trans htail)
  have hids : st.ids = idsOf env (options argv) := loop_ids _ {} st hloop
  have hm : st.setUidmap = given (options argv) 'm' := by
    rw [← @setUidmap_idsOf env, ← hids]
    rfl
  have hM : st.setGidmap = given (options argv) 'M' := by
    rw [← ParseState.flags_setGidmap, (options_flags hloop).2]
    rfl
  have hj : st'.jail = s.jail := tailTarget_jail ht
  rw [← hm, ← hM, ← hids, hjail, hj]
  exact tailSteps_idMaps hs

theorem launch_idMaps_wheel :
    (main sampleEnv ["minijail0", "-M", "-g", "wheel", "-u", "alice", "/bin/true"]).launch =
        some ⟨.ELFDYNAMIC, [.forwardSignals, .gidmap "1000 1000 1",
          .namespaceUserDisableSetgroups, .namespacePids, .namespaceUser, .changeUser "alice",
          .changeGroup "wheel"], some 0⟩ ∧
      (idsOf sampleEnv
        (options ["minijail0", "-M", "-g", "wheel", "-u", "alice", "/bin/true"])).gid = 1000 ∧
      GidMapSet sampleEnv
        (idsOf sampleEnv
          (options ["minijail0", "-M", "-g", "wheel", "-u", "alice", "/bin/true"])).gidmap
        (idsOf sampleEnv
          (options ["minijail0", "-M", "-g", "wheel", "-u", "alice", "/bin/true"])).gid
        [.forwardSignals, .gidmap "1000 1000 1", .namespaceUserDisableSetgroups, .namespacePids,
          .namespaceUser, .changeUser "alice", .changeGroup "wheel"] :=
  ⟨by decide, by decide, (launch_idMaps sampleEnv _ ⟨.ELFDYNAMIC, [.forwardSignals,
    .gidmap "1000 1000 1", .namespaceUserDisableSetgroups, .namespacePids, .namespaceUser,
    .changeUser "alice", .changeGroup "wheel"], some 0⟩ (by decide)).2 (by decide)⟩

/-- The gid map after `-g wheel -u alice -M`, with group `wheel` 10 and `alice` user 1000 in
group 1000: the jail's group is `wheel`, and the map names gid 1000. -/
theorem gidmap_after_user_name :
    (main sampleEnv ["minijail0", "-g", "wheel", "-u", "alice", "-M", "/bin/true"]).launch =
      some ⟨.ELFDYNAMIC, [.forwardSignals, .gidmap "1000 1000 1", .namespaceUserDisableSetgroups,
        .namespacePids, .namespaceUser, .changeUser "alice", .changeGroup "wheel"], some 0⟩ := by
  decide

end Minijail
