import Minijail.Proofs.Exit
import Minijail.Proofs.Accept

/-!
# `Minijail.Proofs.Launch`: what `main` hands to the library

`main` launches after `parse_args` returned. It takes the target program and its arguments from
`argv[optind]` on, and picks the launch call by the ELF type. A static target runs with
`minijail_run_no_preload`. A dynamic one runs with `minijail_run`, which loads the preload
library, and only after `dlopen` found that library in `main`'s own process.

The ELF type is decided at the end of `parse_args`. A `-T` option gives it, and the program is then
not probed. Otherwise `parse_args` probes the program's path as the jail sees it: the path must
be accessible, and the type is what `get_elf_linkage` reads there.

* `tailTarget_elftype`: the type after the target steps, from the type the loop left.
* `main_strategy`: the launch call of `main` after `parse_args`.
* `launch_plan`: for every launch, the target and its arguments, the ELF type, and the launch
  call, over the options `getopt_long` handed to the loop.
* `main_launches_iff`: when every call on the jail returns 0 and the target does not depend on
  the jail, `main` launches exactly when `parse_args` accepts the command line (`Accepts`),
  `setpgid` did not fail but with `EPERM`, and the final ELF type is static, or dynamic with a
  preload library that loads.
* `launch_wellFormed`: in every environment, a launch received only well-formed options, so a
  typo or a malformed argument never runs the target.
* `options_shortWords`: a command line of short options, the program and its arguments. The loop
  receives exactly those options, and `argv` from `optind` on is the program and its arguments,
  even where an argument looks like an option (`getoptScan_shortWords`).
* `options_operands_split`: `getopt_long` never permutes `argv`. The words after `argv[0]` are the
  words it read, then the program and its arguments as they were given, and the words it read
  give the options on their own.
* `operands_stop`: the program is never a word that starts with `-`, unless it is `-` or follows
  the `--` that ended the options.
* `findLongOption_longOptions`: a long option may be abbreviated to any non-empty prefix of its
  name, and no abbreviation is ambiguous.
* `getoptLong_cluster`: a cluster of short options reads as the options written apart, where the
  first takes no argument or requires one; an optional argument must stay in its word.
-/

set_option autoImplicit false

namespace Minijail

variable {env : Env}

/-- The type after the target steps: the one the loop left when `-T` gave one, and otherwise
what `get_elf_linkage` reads from the accessible target. -/
theorem tailTarget_elftype {operands : List String} {st : ParseState}
    {r : ParseState × String × List String} (h : tailTarget env operands st = .ok r) :
    (st.elftype ≠ .ELFERROR → r.1.elftype = st.elftype) ∧
      (st.elftype = .ELFERROR → env.access (env.getOriginalPath st.jail r.2.1) ∧
        r.1.elftype = env.getElfLinkage (env.getOriginalPath st.jail r.2.1)) := by
  rcases operands with _ | ⟨program, rest⟩
  · cases h
  obtain ⟨s, hs, rfl⟩ := except_map_eq_ok.1 h
  obtain ⟨s₁, h₁, hs⟩ := except_bind_eq_ok.1 hs
  obtain ⟨-, rfl⟩ := refuseIf_eq_ok.1 hs
  unfold probeElfType at h₁
  split_ifs at h₁ with he ha <;> cases h₁
  · exact ⟨fun hne => absurd he hne, fun _ => ⟨ha, rfl⟩⟩
  · exact ⟨fun _ => rfl, fun he' => absurd he' he⟩

/-- A run of `main` that launches: `parse_args` returned, and the launch call is
`minijail_run_no_preload` for a static target, or `minijail_run` for a dynamic one after `dlopen`
of the preload library succeeded. -/
theorem main_strategy {argv : List String} {l : Launch} (h : (main env argv).launch = some l) :
    ∃ st program rest c, parseArgs env argv = .ok (st, program, rest) ∧
      main env argv = launchWith env st c ∧
      (st.elftype = .ELFSTATIC ∧ c = .runNoPreload program (program :: rest) ∨
        st.elftype = .ELFDYNAMIC ∧ env.dlopen = none ∧ c = .run program (program :: rest)) := by
  obtain ⟨st, program, rest, hargs, -, -⟩ := main_launch h
  rcases main_of_parseArgs hargs with ⟨msg, hm⟩ | ⟨c, hc⟩
  · rw [hm] at h
    cases h
  · exact ⟨st, program, rest, c, hargs, hc⟩

/-- Every launch of `main`: the target program and its arguments are `argv` from `optind` on,
the ELF type is the one of the last `-T` or else the probe's answer for the accessible target,
and the launch call follows the type. -/
theorem launch_plan (env : Env) (argv : List String) (l : Launch)
    (h : (main env argv).launch = some l) :
    ∃ st program rest c, operands argv = program :: rest ∧
      main env argv = launchWith env st c ∧
      l.elftype = st.elftype ∧ l.jail = st.jail ∧
      (elfOf (options argv) ≠ .ELFERROR → st.elftype = elfOf (options argv)) ∧
      (elfOf (options argv) = .ELFERROR → env.access (env.getOriginalPath st.jail program) ∧
        st.elftype = env.getElfLinkage (env.getOriginalPath st.jail program)) ∧
      (st.elftype = .ELFSTATIC ∧ c = .runNoPreload program (program :: rest) ∨
        st.elftype = .ELFDYNAMIC ∧ env.dlopen = none ∧ c = .run program (program :: rest)) := by
  obtain ⟨st, program, rest, c, hargs, hmain, hc⟩ := main_strategy h
  obtain ⟨s, hloop, htail⟩ := except_bind_eq_ok.1 hargs
  obtain ⟨s', hs, ht⟩ := except_bind_eq_ok.1 ((parseArgsTail_eq env s _).symm.trans htail)
  -- the loop leaves the type of the last `-T`, and the steps before the target keep it
  have helf : s'.elftype = elfOf (options argv) := by
    rw [← ParseState.flags_elftype, (tailSteps_ok hs).1, (options_flags hloop).2]
    rfl
  have hjail : s'.jail = st.jail := (tailTarget_jail ht).symm
  obtain ⟨hset, hprobe⟩ := tailTarget_elftype ht
  obtain ⟨ret, hret⟩ := launchWith_launch env st c
  rw [hmain, hret] at h
  cases h
  refine ⟨st, program, rest, c, (tailTarget_ok ht).1, hmain, rfl, rfl, fun hne => ?_,
    fun he => ?_, hc⟩
  · rw [← helf]
    exact hset (helf ▸ hne)
  · rw [← hjail]
    exact hprobe (helf ▸ he)

theorem launch_plan_ls :
    (main sampleEnv ["minijail0", "-v", "/bin/ls", "-l"]).launch =
        some ⟨.ELFDYNAMIC, [.forwardSignals, .namespaceVfs], some 0⟩ ∧
      ∃ st program rest c, operands ["minijail0", "-v", "/bin/ls", "-l"] = program :: rest ∧
        main sampleEnv ["minijail0", "-v", "/bin/ls", "-l"] = launchWith sampleEnv st c ∧
        ElfType.ELFDYNAMIC = st.elftype ∧ [.forwardSignals, .namespaceVfs] = st.jail ∧
        (elfOf (options ["minijail0", "-v", "/bin/ls", "-l"]) ≠ .ELFERROR →
          st.elftype = elfOf (options ["minijail0", "-v", "/bin/ls", "-l"])) ∧
        (elfOf (options ["minijail0", "-v", "/bin/ls", "-l"]) = .ELFERROR →
          sampleEnv.access (sampleEnv.getOriginalPath st.jail program) ∧
          st.elftype = sampleEnv.getElfLinkage (sampleEnv.getOriginalPath st.jail program)) ∧
        (st.elftype = .ELFSTATIC ∧ c = .runNoPreload program (program :: rest) ∨
          st.elftype = .ELFDYNAMIC ∧ sampleEnv.dlopen = none ∧
            c = .run program (program :: rest)) :=
  ⟨by decide, launch_plan sampleEnv _ ⟨.ELFDYNAMIC, [.forwardSignals, .namespaceVfs], some 0⟩
    (by decide)⟩

/-! ### When `main` launches -/

/-- For a target that does not depend on the jail, the ELF type of an accepted `parse_args` is
`finalElfType` of the options. -/
theorem parseArgs_elftype (hpath : ∀ j, env.getOriginalPath j = env.getOriginalPath [])
    {argv : List String} {st : ParseState} {program : String} {rest : List String}
    (h : parseArgs env argv = .ok (st, program, rest)) :
    st.elftype = finalElfType env (flagsOf (options argv)) program := by
  obtain ⟨s, hloop, htail⟩ := except_bind_eq_ok.1 h
  obtain ⟨s', hs, ht⟩ := except_bind_eq_ok.1 ((parseArgsTail_eq env s _).symm.trans htail)
  have helf : s'.elftype = elfOf (options argv) := by
    rw [← ParseState.flags_elftype, (tailSteps_ok hs).1, (options_flags hloop).2]
    rfl
  obtain ⟨hset, hprobe⟩ := tailTarget_elftype ht
  unfold finalElfType
  split_ifs with he
  · rw [(hprobe (helf.trans he)).2, hpath]
  · exact (hset (helf ▸ he)).trans helf

/-- After an accepted `parse_args`, `main` launches exactly when `setpgid` succeeded or failed with
`EPERM`, and the type is static, or dynamic with a preload library that loads. -/
theorem main_launch_isSome_iff {argv : List String} {st : ParseState} {program : String}
    {rest : List String} (h : parseArgs env argv = .ok (st, program, rest)) :
    (main env argv).launch.isSome ↔ (env.setpgid = none ∨ env.setpgid = some EPERM) ∧
      (st.elftype = .ELFSTATIC ∨ st.elftype = .ELFDYNAMIC ∧ env.dlopen = none) := by
  have hlaunch : ∀ c, (launchWith env st c).launch.isSome := fun c => by
    obtain ⟨ret, hret⟩ := launchWith_launch env st c
    rw [hret]
    rfl
  unfold main
  rw [h]
  dsimp only
  rcases env.setpgid with _ | e
  · cases st.elftype <;> cases env.dlopen <;> simp [hlaunch]
  · by_cases he : e = EPERM
    · subst he
      cases st.elftype <;> cases env.dlopen <;> simp [hlaunch]
    · simp [he]

/-- Take an environment in which every call on the jail returns 0 and the target does not depend
on the jail. `main` launches exactly when `parse_args` accepts the command line, `setpgid`
succeeded or failed with `EPERM`, and the target's final ELF type is static, or dynamic with a
preload library that loads. -/
theorem main_launches_iff (hjail : ∀ j c, env.jail j c = some 0)
    (hpath : ∀ j, env.getOriginalPath j = env.getOriginalPath []) (argv : List String) :
    (main env argv).launch.isSome ↔
      Accepts env (options argv) (operands argv) ∧
        (env.setpgid = none ∨ env.setpgid = some EPERM) ∧
        ∀ program ∈ (operands argv).head?,
          finalElfType env (flagsOf (options argv)) program = .ELFSTATIC ∨
            finalElfType env (flagsOf (options argv)) program = .ELFDYNAMIC ∧ env.dlopen = none := by
  constructor
  · intro hl
    obtain ⟨l, hl⟩ := Option.isSome_iff_exists.1 hl
    obtain ⟨st, program, rest, h, -, -⟩ := main_launch hl
    obtain ⟨hpgid, htype⟩ := (main_launch_isSome_iff h).1 (by rw [hl]; rfl)
    refine ⟨(parseArgs_ok_iff hjail hpath argv).1 ⟨_, h⟩, hpgid, ?_⟩
    rw [parseArgs_operands h]
    rintro _ ⟨⟩
    rwa [← parseArgs_elftype hpath h]
  · rintro ⟨hacc, hpgid, htype⟩
    obtain ⟨⟨st, program, rest⟩, h⟩ := (parseArgs_ok_iff hjail hpath argv).2 hacc
    refine (main_launch_isSome_iff h).2 ⟨hpgid, ?_⟩
    rw [parseArgs_elftype hpath h]
    exact htype program (by rw [parseArgs_operands h]; rfl)

theorem main_launches_iff_ls :
    (∀ j c, sampleEnv.jail j c = some 0) ∧
      (∀ j, sampleEnv.getOriginalPath j = sampleEnv.getOriginalPath []) ∧
      ((main sampleEnv ["minijail0", "-v", "/bin/ls"]).launch.isSome ↔
        Accepts sampleEnv (options ["minijail0", "-v", "/bin/ls"])
            (operands ["minijail0", "-v", "/bin/ls"]) ∧
          (sampleEnv.setpgid = none ∨ sampleEnv.setpgid = some EPERM) ∧
          ∀ program ∈ (operands ["minijail0", "-v", "/bin/ls"]).head?,
            finalElfType sampleEnv (flagsOf (options ["minijail0", "-v", "/bin/ls"])) program =
                .ELFSTATIC ∨
              finalElfType sampleEnv (flagsOf (options ["minijail0", "-v", "/bin/ls"])) program =
                .ELFDYNAMIC ∧ sampleEnv.dlopen = none) :=
  ⟨fun _ _ => rfl, fun _ => rfl, main_launches_iff (fun _ _ => rfl) (fun _ => rfl) _⟩

section WellFormed

variable {env : Env}

/-- In every environment, an accepted turn of the loop received a well-formed option: the checks
of its argument fail whatever the library answers. -/
theorem parseOpt_wellFormed {st st' : ParseState} {o : Opt} (h : parseOpt env st o = .ok st') :
    o.WellFormed env := by
  cases o
  case u user =>
    obtain ⟨r, hr, -⟩ := except_map_eq_ok.1 h
    -- not a number: the lookup found the name
    refine or_iff_not_imp_left.2 fun hn => ?_
    simp only [setUser, if_neg hn] at hr
    split at hr <;> simp_all
  case g group =>
    obtain ⟨r, hr, -⟩ := except_map_eq_ok.1 h
    -- not a number: the lookup found the name
    refine or_iff_not_imp_left.2 fun hn => ?_
    simp only [setGroup, if_neg hn] at hr
    split at hr <;> simp_all
  case S file =>
    rw [parseOpt] at h
    refine Nat.lt_of_not_le fun hp => ?_
    split_ifs at h
    obtain ⟨s, -, h⟩ := except_bind_eq_ok.1 h
    cases h
  case b arg =>
    obtain ⟨j, hj, -⟩ := except_map_eq_ok.1 h
    obtain ⟨src, dest, rest, hp, -⟩ := addBinding_eq_ok.1 hj
    simp [Opt.WellFormed, hp]
  case k arg =>
    obtain ⟨j, hj, -⟩ := except_map_eq_ok.1 h
    obtain ⟨src, dest, type, rest, hp, -⟩ := addMount_eq_ok.1 hj
    simp [Opt.WellFormed, hp]
  case R arg =>
    obtain ⟨j, hj, -⟩ := except_map_eq_ok.1 h
    obtain ⟨type, cur, max, rest, hp, -⟩ := addRlimit_eq_ok.1 hj
    simp [Opt.WellFormed, hp]
  case B mask | c mask =>
    obtain ⟨j, hj, -⟩ := except_map_eq_ok.1 h
    simp only [skipSecurebits, useCaps, hexMaskOption] at hj
    split at hj <;> rename_i hm
    · cases hj
    · exact not_not.1 hm
  case t size =>
    rcases size with _ | size
    · trivial
    obtain ⟨s, -, h⟩ := except_bind_eq_ok.1 h
    dsimp only at h
    split at h
    · cases h
    · rename_i heq
      simp [Opt.WellFormed, heq]
  case T type =>
    rw [parseOpt] at h
    split_ifs at h with h₁ h₂
    exacts [.inl h₁, .inr h₂]
  case logging system =>
    rw [parseOpt] at h
    split_ifs at h with h₁ h₂
    exacts [.inl h₁, .inr h₂]
  case H | h | unknown => cases h
  all_goals trivial

/-- The run lemma: a loop that accepted its options received only well-formed ones. -/
theorem loop_wellFormed (opts : List Opt) : ∀ st st' : ParseState,
    opts.foldlM (parseOpt env) st = .ok st' → ∀ o ∈ opts, o.WellFormed env := by
  induction opts with
  | nil => intro _ _ _ o ho; cases ho
  | cons o opts ih =>
    intro st st' h o' ho'
    rw [List.foldlM_cons] at h
    obtain ⟨s, hs, hrest⟩ := except_bind_eq_ok.1 h
    rcases List.mem_cons.1 ho' with rfl | ho'
    · exact parseOpt_wellFormed hs
    · exact ih s st' hrest o' ho'

end WellFormed

/-- In every environment, `main` launches only when every option `getopt_long` returned was
well formed: no `'?'` (an unknown option, a missing argument, an unknown or ambiguous long option),
no `-h` or `-H`, a type of `-T` and a value of `--logging` that `parse_args` knows, enough fields for
`-b`, `-k` and `-R`, a whole hexadecimal mask for `-c` and `-B`, a short enough path for `-S`, a
size `parse_size` reads for `-t`, and a numeric or known name for `-u` and `-g`. -/
theorem launch_wellFormed (env : Env) (argv : List String) (l : Launch)
    (h : (main env argv).launch = some l) : ∀ o ∈ options argv, o.WellFormed env := by
  obtain ⟨st', program, rest, hargs, -⟩ := main_launch h
  obtain ⟨st, hloop, -⟩ := except_bind_eq_ok.1 hargs
  exact loop_wellFormed _ {} st hloop

theorem launch_wellFormed_ls :
    (main sampleEnv ["minijail0", "-u", "alice", "-b", "/a,/b", "-v", "/bin/ls"]).launch =
      some ⟨.ELFDYNAMIC, [.forwardSignals, .namespaceVfs, .bind "/a" "/b" 0, .changeUser "alice"],
        some 0⟩ ∧
    ∀ o ∈ options ["minijail0", "-u", "alice", "-b", "/a,/b", "-v", "/bin/ls"],
      o.WellFormed sampleEnv :=
  ⟨by decide, launch_wellFormed sampleEnv _ ⟨.ELFDYNAMIC, [.forwardSignals, .namespaceVfs,
    .bind "/a" "/b" 0, .changeUser "alice"], some 0⟩ (by decide)⟩

/-! ### The command line -/

/-- A command line of short options that `getopt_long` reads back, then the target program and its
arguments: the loop receives exactly those options, in order, and the program and its arguments
are `argv` from `optind` on, options among them included. -/
theorem options_shortWords (argv0 : String) (opts : List (Char × Option String)) (program : String)
    (args : List String) (hopts : ∀ o ∈ opts, Libc.shortOk (optstring.data.drop 1) o)
    (hprog : program.data.head? ≠ some '-') :
    options (argv0 :: (opts.map (Libc.shortWords (optstring.data.drop 1))).flatten ++
        program :: args) = opts.map (fun o => Opt.ofVal o.1 o.2) ∧
      operands (argv0 :: (opts.map (Libc.shortWords (optstring.data.drop 1))).flatten ++
        program :: args) = program :: args := by
  have h := Libc.getoptScan_shortWords (optstring.data.drop 1) longOptions opts (program :: args)
    hopts (by simpa using hprog)
  simp only [options, operands, Libc.getoptLong, List.cons_append, List.drop_succ_cons,
    List.drop_zero, h, and_self]

theorem options_shortWords_ls :
    (∀ o ∈ [('v', none), ('b', some "/a,/b"), ('m', some "0 1000 1")],
      Libc.shortOk (optstring.data.drop 1) o) ∧ "/bin/ls".data.head? ≠ some '-' ∧
    options ["minijail0", "-v", "-b", "/a,/b", "-m0 1000 1", "/bin/ls", "-l"] =
        [.v, .b "/a,/b", .m (some "0 1000 1")] ∧
      operands ["minijail0", "-v", "-b", "/a,/b", "-m0 1000 1", "/bin/ls", "-l"] =
        ["/bin/ls", "-l"] :=
  ⟨by decide, by decide, options_shortWords "minijail0" [('v', none), ('b', some "/a,/b"),
    ('m', some "0 1000 1")] "/bin/ls" ["-l"] (by decide) (by decide)⟩

/-- `getopt_long` never permutes `argv`: after `argv[0]` come the words it read, then `argv` from
`optind` on as it was given. The words it read give the same options on their own and leave
nothing. -/
theorem options_operands_split (argv : List String) :
    ∃ read, argv.drop 1 = read ++ operands argv ∧
      options (argv.take 1 ++ read) = options argv ∧ operands (argv.take 1 ++ read) = [] := by
  obtain ⟨read, h₁, h₂⟩ := Libc.getoptScan_split _ _ none (argv.drop 1) _ _ rfl
  refine ⟨read, h₁, ?_⟩
  rcases argv with _ | ⟨argv0, args⟩
  · -- no `argv[0]`: nothing to read
    obtain ⟨rfl, -⟩ := List.append_eq_nil.1 h₁.symm
    exact ⟨rfl, rfl⟩
  · simp only [options, operands, Libc.getoptLong, List.take_succ_cons, List.take_zero,
      List.singleton_append, List.drop_succ_cons, List.drop_zero, h₂, and_self]

/-- `getopt_long` stops only where `REQUIRE_ORDER` tells it to: the program `main` runs never
starts with `-`, unless it is `-` itself or comes right after the `--` that ended the options. -/
theorem operands_stop (argv : List String) :
    ∀ program ∈ (operands argv).head?, program.data.head? ≠ some '-' ∨ program = "-" ∨
      ∃ read, argv.drop 1 = read ++ "--" :: operands argv := by
  intro program hp
  rcases Libc.getoptScan_stop (optstring.data.drop 1) longOptions none (argv.drop 1) program hp
    with h | h | h
  · exact .inl h
  · -- the word `-` alone
    obtain ⟨data⟩ := program
    cases h
    exact .inr (.inl rfl)
  · exact .inr (.inr h)

theorem operands_stop_dashdash :
    (operands ["minijail0", "-v", "--", "-x"]).head? = some "-x" ∧
      ("-x".data.head? ≠ some '-' ∨ "-x" = "-" ∨
        ∃ read, ["minijail0", "-v", "--", "-x"].drop 1 = read ++ "--" ::
          operands ["minijail0", "-v", "--", "-x"]) :=
  have h : (operands ["minijail0", "-v", "--", "-x"]).head? = some "-x" := by decide
  ⟨h, operands_stop _ "-x" h⟩

/-- The long options of `parse_args` start with five different letters, so `getopt_long` takes
`--name` and `--name=value` for the option `o` exactly when `name` is a non-empty prefix of `o`'s
name: every abbreviation selects one option, and any other name gives `'?'`. -/
theorem findLongOption_longOptions (name : List Char) (o : Libc.LongOption) :
    Libc.findLongOption longOptions name = some o ↔
      o ∈ longOptions ∧ name ≠ [] ∧ name <+: o.name.data := by
  rcases name with _ | ⟨c, cs⟩
  · -- the empty name of `--=value` is a prefix of every name, and the options disagree
    have h : Libc.findLongOption longOptions [] = none := by decide
    simp [h]
  · rw [Libc.findLongOption_eq_some (by decide)]
    simp

example : options ["minijail0", "--amb", "--ut=box", "--log", "stderr", "--m", "/bin/true"] =
    [.ambient, .uts (some "box"), .logging "stderr", .d] := by
  decide

/-- `getopt_long` reads a cluster of the short options of `parse_args` as the options written
apart: `-vr` as `-v -r` when the first option takes no argument and the rest does not start with
`-`, and `-ufoo` as `-u foo` when the first option requires an argument. -/
theorem getoptLong_cluster (argv0 : String) (c d : Char) (ds : List Char) (rest : List String) :
    (Libc.shortKind (optstring.data.drop 1) c = some .noArgument → d ≠ '-' →
      Libc.getoptLong (argv0 :: ⟨'-' :: c :: d :: ds⟩ :: rest) optstring longOptions =
        Libc.getoptLong (argv0 :: ⟨['-', c]⟩ :: ⟨'-' :: d :: ds⟩ :: rest) optstring longOptions) ∧
    (Libc.shortKind (optstring.data.drop 1) c = some .requiredArgument →
      Libc.getoptLong (argv0 :: ⟨'-' :: c :: d :: ds⟩ :: rest) optstring longOptions =
        Libc.getoptLong (argv0 :: ⟨['-', c]⟩ :: ⟨d :: ds⟩ :: rest) optstring longOptions) := by
  -- `-` is no short option of `parse_args`
  have hc : ∀ k, Libc.shortKind (optstring.data.drop 1) c = some k → c ≠ '-' := by
    rintro k hk rfl
    cases (show Libc.shortKind (optstring.data.drop 1) '-' = none by decide) ▸ hk
  exact ⟨fun hk hd => Libc.getoptScan_cluster_noArgument _ _ (hc _ hk) hd hk ds rest,
    fun hk => Libc.getoptScan_cluster_requiredArgument _ _ (hc _ hk) hk ds rest⟩

theorem getoptLong_cluster_vr_ufoo :
    (Libc.shortKind (optstring.data.drop 1) 'v' = some .noArgument ∧ 'r' ≠ '-' ∧
      Libc.getoptLong ["minijail0", ⟨['-', 'v', 'r']⟩, "/bin/true"] optstring longOptions =
        Libc.getoptLong ["minijail0", ⟨['-', 'v']⟩, ⟨['-', 'r']⟩, "/bin/true"] optstring
          longOptions) ∧
    (Libc.shortKind (optstring.data.drop 1) 'u' = some .requiredArgument ∧
      Libc.getoptLong ["minijail0", ⟨['-', 'u', 'f', 'o', 'o']⟩, "/bin/true"] optstring
          longOptions =
        Libc.getoptLong ["minijail0", ⟨['-', 'u']⟩, ⟨['f', 'o', 'o']⟩, "/bin/true"] optstring
          longOptions) :=
  ⟨⟨by decide, by decide, (getoptLong_cluster "minijail0" 'v' 'r' [] ["/bin/true"]).1
      (by decide) (by decide)⟩,
    ⟨by decide, (getoptLong_cluster "minijail0" 'u' 'f' ['o', 'o'] ["/bin/true"]).2 (by decide)⟩⟩

/-- An optional argument, as that of `-m` and `-M`, must stay in its word: after `-m` alone the
next word is the program. -/
example : options ["minijail0", "-m0 0 1", "/bin/true"] = [.m (some "0 0 1")] ∧
    options ["minijail0", "-m", "0 0 1", "/bin/true"] = [.m none] ∧
    operands ["minijail0", "-m", "0 0 1", "/bin/true"] = ["0 0 1", "/bin/true"] := by
  decide

end Minijail
