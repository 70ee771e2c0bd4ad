import Minijail.Minijail0.ParseArgs

/-!
# `Minijail.Minijail0.Main`: `main`

`main` (`minijail0.c`, lines 707-768) runs `parse_args`, makes its process a group leader with
`setpgid (0, 0)`, and launches the target by its ELF type. A static target goes to
`minijail_run_no_preload`. A dynamic target goes to `minijail_run`, once `dlopen` has shown
that `libminijailpreload.so` loads. Any other type is refused. After the launch `main`
returns 0 under `-i` and the status `minijail_wait` reports otherwise. `main` ignores the value
of the launch call on both branches.

`MainRun` records how the run ends and, when `main` reached a launch call, what it handed
over (`Launch`).
-/

set_option autoImplicit false

namespace Minijail

/-- A launch: the ELF type `main` branched on, the jail it handed over, and what the launch
call returned (`none` when the library aborted in it). -/
structure Launch where
  elftype : ElfType
  jail : Jail
  ret : Option Int
  deriving DecidableEq, Repr

/-- How a run of `main` ends, and its launch when it reached one. -/
structure MainRun where
  exit : Exit
  launch : Option Launch
  deriving DecidableEq, Repr

/-- The launch call `c` on the jail of `st`, then `-i` or `minijail_wait`. -/
def launchWith (env : Env) (st : ParseState) (c : JailCall) : MainRun :=
  match st.jail.callRet env c with
  | .error e => ⟨e, some ⟨st.elftype, st.jail, none⟩⟩
  | .ok (ret, j) =>
    if st.exitImmediately then ⟨.exit 0, some ⟨st.elftype, st.jail, some ret⟩⟩
    else
      match j.callRet env .wait with
      | .error e => ⟨e, some ⟨st.elftype, st.jail, some ret⟩⟩
      | .ok (status, _) => ⟨.exit status, some ⟨st.elftype, st.jail, some ret⟩⟩

/-- `main (argc, argv)`. -/
def main (env : Env) (argv : List String) : MainRun :=
  match parseArgs env argv with
  | .error e => ⟨e, none⟩
  | .ok (st, program, rest) =>
    if env.setpgid.any (· ≠ EPERM) then ⟨.error "setpgid(0, 0) failed\n", none⟩
    else
      match st.elftype with
      | .ELFSTATIC => launchWith env st (.runNoPreload program (program :: rest))
      | .ELFDYNAMIC =>
        match env.dlopen with
        | some msg => ⟨.error ("dlopen(): " ++ msg ++ "\n"), none⟩
        | none => launchWith env st (.run program (program :: rest))
      | .ELFERROR =>
        ⟨.error ("Target program '" ++ program ++ "' is not a valid ELF file.\n"), none⟩

end Minijail
