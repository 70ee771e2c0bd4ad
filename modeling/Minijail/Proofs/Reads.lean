import Minijail.Proofs.Handover

/-!
# `Minijail.Proofs.Reads`: what `main` asks of its environment

A run of `minijail0` asks the outside world questions: it calls the library, looks up users and
groups, reads sizes, asks for the caller's ids and capabilities, and probes the target. Some of
these it asks on every run: the library's answers, `setpgid`, `dlopen`, and the cast of a
numeric id. The others it asks only for some command lines, and only at some points.

* The user database only at the argument of a `-u` that `set_user` does not read as a number,
  and the group database only at that of such a `-g` (`IsNumericId`). A numeric id is never
  looked up.
* `parse_size` only at the size of a `-t`.
* The caller's uid only under `-m`, and its gid and `CAP_SETGID` only under `-M`.
* The target only without `-T`: with a type given, `parse_args` never touches the program.

`main_eq_of_answersAlike` is the two-run statement: two environments that answer these questions
alike (`AnswersAlike`) give the same run of `main`, whatever else they answer.

The proof changes one environment into the other. `Env.answering env env'` is `env` with the
answers of `env'` to the questions of the list. One turn of the loop reads only what its option
asks (`parseOpt_answering`), and so does the loop (`loop_answering`). The steps after the loop
read the caller's ids only for the maps they set (`tailSteps_answering`), and the probe only
when the ELF type is not known yet (`tailTarget_answering`). After a `-T` the loop never leaves
the type unknown (`loop_elftype`).
-/

set_option autoImplicit false

namespace Minijail

open Libc

/-- `set_user` and `set_group` read `arg` as a number: `strtod` reads all of it, and it is not
empty. -/
def IsNumericId (arg : String) : Prop := (strtod arg.data).endptr = [] ∧ arg.data ≠ []

instance : DecidablePred IsNumericId := fun _ => inferInstanceAs (Decidable (_ ∧ _))

/-- `env` with the answers of `env'` to the questions `main` asks only for some command lines:
the user and group databases, `parse_size`, the caller's ids and `CAP_SETGID`, and the probe of
the target. -/
def Env.answering (env env' : Env) : Env :=
  { env with
    lookupUser := env'.lookupUser, lookupGroup := env'.lookupGroup, parseSize := env'.parseSize,
    getuid := env'.getuid, getgid := env'.getgid, capSetgid := env'.capSetgid,
    getOriginalPath := env'.getOriginalPath, access := env'.access,
    getElfLinkage := env'.getElfLinkage }

/-- `env'` answers what the option `o` asks as `env` does: the user database at the name of a `-u`
that is not a number, the group database at that of a `-g`, and `parse_size` at the size of a
`-t`. Every other option asks only the library. -/
def Opt.AgreeOn (env env' : Env) : Opt → Prop
  | .u user => ¬ IsNumericId user → env'.lookupUser user = env.lookupUser user
  | .g group => ¬ IsNumericId group → env'.lookupGroup group = env.lookupGroup group
  | .t (some size) => env'.parseSize size = env.parseSize size
  | _ => True

theorem except_bind_congr_ok {ε α β : Type} {x : Except ε α} {f g : α → Except ε β}
    (h : ∀ a, x = .ok a → f a = g a) : x >>= f = x >>= g := by
  cases x
  · rfl
  · exact h _ rfl

/-! ### The loop -/

section Loop

variable {env env' : Env}

theorem setUser_answering {j : Jail} {user : String} {gid : UInt32}
    (h : ¬ IsNumericId user → env'.lookupUser user = env.lookupUser user) :
    setUser (env.answering env') j user gid = setUser env j user gid := by
  unfold setUser
  dsimp only
  split_ifs with hn
  · rfl
  · rw [show (env.answering env').lookupUser user = env.lookupUser user from h hn]
    rfl

theorem setGroup_answering {j : Jail} {group : String}
    (h : ¬ IsNumericId group → env'.lookupGroup group = env.lookupGroup group) :
    setGroup (env.answering env') j group = setGroup env j group := by
  unfold setGroup
  dsimp only
  split_ifs with hn
  · rfl
  · rw [show (env.answering env').lookupGroup group = env.lookupGroup group from h hn]
    rfl

/-- One turn of the loop reads only what its option asks. -/
theorem parseOpt_answering (st : ParseState) (o : Opt) (h : o.AgreeOn env env') :
    parseOpt (env.answering env') st o = parseOpt env st o := by
  cases o
  case u user => exact congrArg (Except.map _) (setUser_answering h)
  case g group => exact congrArg (Except.map _) (setGroup_answering h)
  case t size =>
    rcases size with _ | size
    · rfl
    · refine bind_congr fun s => ?_
      dsimp only
      rw [show (env.answering env').parseSize size = env.parseSize size from h]
      rfl
  -- every other option asks only the library, whose answers are those of `env`
  all_goals rfl

/-- The run lemma: the loop reads only what its options ask. -/
theorem loop_answering (opts : List Opt) (h : ∀ o ∈ opts, o.AgreeOn env env')
    (st : ParseState) :
    opts.foldlM (parseOpt (env.answering env')) st = opts.foldlM (parseOpt env) st := by
  induction opts generalizing st with
  | nil => rfl
  | cons o opts ih =>
    rw [List.foldlM_cons, List.foldlM_cons, parseOpt_answering st o (h o (List.mem_cons_self _ _))]
    exact bind_congr fun s => ih (fun o ho => h o (List.mem_cons_of_mem _ ho)) s

end Loop

/-! ### The tail -/

section Tail

variable {env env' : Env}

/-- `set_ugid_mapping` asks for the caller's uid only for the uid map, and for its gid and
`CAP_SETGID` only for the gid map. -/
theorem setUgidMapping_answering {j : Jail} {setUidmap setGidmap : Bool} {uid gid : UInt32}
    {uidmap gidmap : Option String} (hu : setUidmap → env'.getuid = env.getuid)
    (hg : setGidmap → env'.getgid = env.getgid ∧ env'.capSetgid = env.capSetgid) :
    setUgidMapping (env.answering env') j setUidmap uid uidmap setGidmap gid gidmap =
      setUgidMapping env j setUidmap uid uidmap setGidmap gid gidmap := by
  unfold setUgidMapping
  have h₁ : (if setUidmap then setUidMapping (env.answering env') j uid uidmap else .ok j) =
      if setUidmap then setUidMapping env j uid uidmap else .ok j := by
    split
    · unfold setUidMapping
      rw [show (env.answering env').getuid = env.getuid from hu ‹_›]
      rfl
    · rfl
  rw [h₁]
  refine bind_congr fun j => ?_
  split
  · obtain ⟨e₁, e₂⟩ := hg ‹_›
    unfold setGidMapping
    rw [show (env.answering env').getgid = env.getgid from e₁,
      show (env.answering env').capSetgid = env.capSetgid from e₂]
    rfl
  · rfl

theorem setUpIdMaps_answering {st : ParseState} (hu : st.setUidmap → env'.getuid = env.getuid)
    (hg : st.setGidmap → env'.getgid = env.getgid ∧ env'.capSetgid = env.capSetgid) :
    setUpIdMaps (env.answering env') st = setUpIdMaps env st := by
  unfold setUpIdMaps
  rw [setUgidMapping_answering hu hg]

/-- The steps before the target ask for the caller's ids only for the maps the loop asked for. -/
theorem tailSteps_answering {st : ParseState} (hu : st.setUidmap → env'.getuid = env.getuid)
    (hg : st.setGidmap → env'.getgid = env.getgid ∧ env'.capSetgid = env.capSetgid) :
    tailSteps (env.answering env') st = tailSteps env st := by
  have hhead : preserveStderr (env.answering env') st >>= setUpIdMaps (env.answering env') =
      preserveStderr env st >>= setUpIdMaps env := by
    refine except_bind_congr_ok fun s hs => ?_
    -- keeping stderr open changes only the jail
    obtain rfl := preserveStderr_eq hs
    exact setUpIdMaps_answering hu hg
  unfold tailSteps
  rw [hhead]
  rfl

/-- The steps on the target probe it only when the ELF type is not known. -/
theorem tailTarget_answering {operands : List String} {st : ParseState}
    (hp : st.elftype = .ELFERROR → env'.getOriginalPath = env.getOriginalPath ∧
      env'.access = env.access ∧ env'.getElfLinkage = env.getElfLinkage) :
    tailTarget (env.answering env') operands st = tailTarget env operands st := by
  rcases operands with _ | ⟨program, rest⟩
  · rfl
  have hprobe : probeElfType (env.answering env') program st = probeElfType env program st := by
    unfold probeElfType
    by_cases he : st.elftype = .ELFERROR
    · obtain ⟨e₁, e₂, e₃⟩ := hp he
      rw [show (env.answering env').getOriginalPath = env.getOriginalPath from e₁,
        show (env.answering env').access = env.access from e₂,
        show (env.answering env').getElfLinkage = env.getElfLinkage from e₃]
    · simp only [if_neg he]
  simp only [tailTarget, hprobe]

end Tail

/-! ### The type after `-T` -/

section ElfTypes

variable {env : Env}

/-- A turn of the loop keeps a known ELF type, and an accepted `-T` makes it known. -/
theorem parseOpt_elftype {st st' : ParseState} {o : Opt} (h : parseOpt env st o = .ok st')
    (hT : st.elftype ≠ .ELFERROR ∨ o.key = 'T') : st'.elftype ≠ .ELFERROR := by
  have e : st'.elftype = (st.flags.update o).elftype := congrArg Flags.elftype (parseOpt_flags h)
  cases o
  case T type =>
    rw [parseOpt] at h
    split_ifs at h <;> cases h <;> nofun
  -- no other option touches the type
  all_goals exact e ▸ hT.resolve_right (by simp [Opt.key])

/-- The run lemma: a loop that accepted a `-T`, or started from a known type, ends with a known
type. -/
theorem loop_elftype (opts : List Opt) : ∀ st st' : ParseState,
    opts.foldlM (parseOpt env) st = .ok st' → (st.elftype ≠ .ELFERROR ∨ given opts 'T') →
      st'.elftype ≠ .ELFERROR := by
  induction opts with
  | nil => rintro st st' ⟨⟩ hT; simpa using hT
  | cons o opts ih =>
    intro st st' h hT
    rw [List.foldlM_cons] at h
    obtain ⟨s, hs, hrest⟩ := except_bind_eq_ok.1 h
    by_cases hg : given opts 'T'
    · exact ih s st' hrest (.inr hg)
    · refine ih s st' hrest (.inl (parseOpt_elftype hs ?_))
      simp only [given, List.any_cons, Bool.or_eq_true, beq_iff_eq] at hT hg
      simpa [hg] using hT

end ElfTypes

/-! ### Whole runs -/

/-- `main` in `env` with the answers of `env'` runs as in `env` when the answers agree where the
command line asks. -/
theorem main_answering {env env' : Env} {argv : List String}
    (hopts : ∀ o ∈ options argv, o.AgreeOn env env')
    (hu : given (options argv) 'm' → env'.getuid = env.getuid)
    (hg : given (options argv) 'M' → env'.getgid = env.getgid ∧ env'.capSetgid = env.capSetgid)
    (hp : given (options argv) 'T' = false → env'.getOriginalPath = env.getOriginalPath ∧
      env'.access = env.access ∧ env'.getElfLinkage = env.getElfLinkage) :
    main (env.answering env') argv = main env argv := by
  have hargs : parseArgs (env.answering env') argv = parseArgs env argv := by
    unfold parseArgs
    rw [loop_answering _ hopts]
    refine except_bind_congr_ok fun st hloop => ?_
    -- the loop left the flags of the maps and the type that its options ask for
    have hids : st.ids = idsOf env (options argv) := loop_ids _ {} st hloop
    have hm : st.setUidmap = given (options argv) 'm' := by
      rw [← @setUidmap_idsOf env, ← hids]
      rfl
    have hM : st.setGidmap = given (options argv) 'M' := by
      rw [← ParseState.flags_setGidmap, (options_flags hloop).2]
      rfl
    rw [parseArgsTail_eq, parseArgsTail_eq, tailSteps_answering (hm ▸ hu) (hM ▸ hg)]
    refine except_bind_congr_ok fun s hs => tailTarget_answering fun he => hp ?_
    have es : s.elftype = st.elftype := congrArg Flags.elftype (tailSteps_ok hs).1
    by_contra hT
    exact loop_elftype _ {} st hloop (.inr (by simpa using hT)) (es ▸ he)
  unfold main
  rw [hargs]
  rfl

/-- Two environments that answer alike every question `main` asks for the command line
`argv`. -/
structure AnswersAlike (argv : List String) (env env' : Env) : Prop where
  /-- The library, on every call. -/
  jail : env'.jail = env.jail
  /-- The cast of a numeric id to `int`. -/
  intCast : env'.intCast = env.intCast
  /-- `setpgid (0, 0)` in `main`. -/
  setpgid : env'.setpgid = env.setpgid
  /-- `dlopen` of the preload library in `main`. -/
  dlopen : env'.dlopen = env.dlopen
  /-- The user and group databases and `parse_size`, where an option asks them. -/
  lookups : ∀ o ∈ options argv, o.AgreeOn env env'
  /-- The caller's uid, under `-m`. -/
  getuid : given (options argv) 'm' → env'.getuid = env.getuid
  /-- The caller's gid and `CAP_SETGID`, under `-M`. -/
  getgid : given (options argv) 'M' → env'.getgid = env.getgid ∧ env'.capSetgid = env.capSetgid
  /-- The probe of the target, without `-T`. -/
  probe : given (options argv) 'T' = false → env'.getOriginalPath = env.getOriginalPath ∧
    env'.access = env.access ∧ env'.getElfLinkage = env.getElfLinkage

/-- An environment that answers alike is `env` with its answers to the questions of the list. -/
theorem AnswersAlike.answering_eq {argv : List String} {env env' : Env}
    (h : AnswersAlike argv env env') : env.answering env' = env' := by
  obtain ⟨hj, hc, hs, hd, -⟩ := h
  cases env'
  dsimp only at hj hc hs hd
  subst hj hc hs hd
  rfl

/-- `main` reads its environment only where `AnswersAlike` lists: two environments that answer
alike there give the same run, whatever they answer elsewhere. -/
theorem main_eq_of_answersAlike (argv : List String) (env env' : Env)
    (h : AnswersAlike argv env env') : main env' argv = main env argv := by
  rw [← h.answering_eq]
  exact main_answering h.lookups h.getuid h.getgid h.probe

/-- `-u 1000 -T static`: no user database, another caller and no access to the target change
nothing. -/
theorem main_eq_of_answersAlike_numeric :
    AnswersAlike ["minijail0", "-u", "1000", "-T", "static", "/bin/true"] sampleEnv
      { sampleEnv with lookupUser := fun _ => none, getuid := 0, access := fun _ => false } ∧
    main { sampleEnv with lookupUser := fun _ => none, getuid := 0, access := fun _ => false }
        ["minijail0", "-u", "1000", "-T", "static", "/bin/true"] =
      main sampleEnv ["minijail0", "-u", "1000", "-T", "static", "/bin/true"] := by
  have hopts : options ["minijail0", "-u", "1000", "-T", "static", "/bin/true"] =
      [.u "1000", .T "static"] := by decide
  have h : AnswersAlike ["minijail0", "-u", "1000", "-T", "static", "/bin/true"] sampleEnv
      { sampleEnv with lookupUser := fun _ => none, getuid := 0, access := fun _ => false } := by
    refine ⟨rfl, rfl, rfl, rfl, ?_, ?_, ?_, ?_⟩ <;> rw [hopts]
    · intro o ho
      simp only [List.mem_cons, List.mem_singleton, List.not_mem_nil, or_false] at ho
      rcases ho with rfl | rfl
      · exact fun hn => absurd (by decide) hn
      · trivial
    all_goals exact fun h => absurd h (by decide)
  exact ⟨h, main_eq_of_answersAlike _ _ _ h⟩

end Minijail
