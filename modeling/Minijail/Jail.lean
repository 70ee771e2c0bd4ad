import Minijail.Libc.Strtod

/-!
# `Minijail.Jail`: the jail library, the environment, and how a run ends

`minijail0` builds its jail through the `minijail_*` functions of `libminijail`, which
`minijail0.c` only calls. The model records the calls: a `Jail` is the list of `JailCall`s
made on the jail so far, the latest first. What the library answers is up to the
environment: `Env.jail` gives the return value of each call from the jail's history, or
`none` when the library aborts the process (`die`). A `void` function's value is ignored.

Everything else outside `minijail0.c` is in `Env` too. That covers the user and group
database (`lookup_user`, `lookup_group`), `parse_size`, the probe of the target program
(`minijail_get_original_path`, `access`, `get_elf_linkage`), and `getuid`, `getgid` and
libcap. It also covers `setpgid`, `dlopen`, and the target's `double` to `int` cast.

A run of `minijail0` ends in one of three ways (`Exit`). It can print a message to stderr and
exit with status 1. It can exit with a status and print nothing to stderr (a usage text
goes to stdout). Or the library aborts it.
-/

set_option autoImplicit false

namespace Minijail

/-- `ElfType` of `elfparse.h`: what `get_elf_linkage` makes of the target program. -/
inductive ElfType where
  | ELFERROR
  | ELFSTATIC
  | ELFDYNAMIC
  deriving DecidableEq, Repr

/-- A call `minijail0` makes on the jail: one constructor per `minijail_*` function it uses,
named without the prefix, with the arguments it passes. `rlimit` keeps the three `int`s
`add_rlimit` computes; the library's parameter types convert them. -/
inductive JailCall where
  | changeUid (uid : UInt32)
  | changeUser (user : String)
  | changeGid (gid : UInt32)
  | changeGroup (group : String)
  | noNewPrivs
  | useSeccomp
  | useSeccompFilter
  | namespaceIpc
  | logSeccompFilterFailures
  | bind (src dest : String) (writeable : Int)
  | skipSettingSecurebits (securebitsSkipMask : UInt64)
  | useCaps (capmask : UInt64)
  | enterChroot (dir : String)
  | mountWithData (src dest type : String) (flags : UInt64) (data : Option String)
  | skipRemountPrivate
  | enterPivotRoot (dir : String)
  | namespaceVfs
  | writePidFile (path : String)
  | mountTmpSize (size : UInt64)
  | namespaceEnterVfs (path : String)
  | remountProcReadonly
  | inheritUsergroups
  | keepSupplementaryGids
  | namespaceCgroups
  | namespacePids
  | namespaceEnterNet (path : String)
  | namespaceNet
  | runAsInit
  | namespaceUser
  | useAltSyscall (table : String)
  | rlimit (type cur max : Int)
  | newSessionKeyring
  | setSeccompFilterTsync
  | mountDev
  | setAmbientCaps
  | namespaceUts
  | namespaceSetHostname (name : String)
  | preserveFd (parentFd childFd : Int)
  | uidmap (uidmap : String)
  | gidmap (gidmap : String)
  | namespaceUserDisableSetgroups
  | forwardSignals
  | parseSeccompFilters (path : String)
  | run (filename : String) (argv : List String)
  | runNoPreload (filename : String) (argv : List String)
  | wait
  deriving DecidableEq, Repr

/-- The jail: the calls made on it so far, the latest first. -/
abbrev Jail := List JailCall

/-- How a run of `minijail0` ends. -/
inductive Exit where
  /-- `fprintf (stderr, msg)`, then `exit (1)`, or `return 1` from `main`. -/
  | error (msg : String)
  /-- `exit (status)`, or `return status` from `main`, with nothing on stderr. -/
  | exit (status : Int)
  /-- A library call aborted the process. -/
  | abort
  deriving DecidableEq, Repr

/-- The status the process exits with. `exit (status)` and a return from `main` keep the low
eight bits of the value, so a `main` that returns 256 exits with 0. An abort has none. -/
def Exit.status : Exit → Option Int
  | .error _ => some 1
  | .exit s => some (s % 256)
  | .abort => none

/-- What libcap tells `has_cap_setgid`. -/
inductive CapProbe where
  /-- `CAP_IS_SUPPORTED (CAP_SETGID)` is false. -/
  | unsupported
  /-- The three calls succeed, and `CAP_SETGID` is in the effective set iff `effective`. -/
  | probed (effective : Bool)
  /-- `cap_get_proc` fails; `%m` prints `err`. -/
  | getProcFails (err : String)
  /-- `cap_get_flag` fails; `%m` prints `err`. -/
  | getFlagFails (err : String)
  /-- `cap_free` fails; `%m` prints `err`. -/
  | freeFails (err : String)
  deriving DecidableEq, Repr

/-- Everything outside `minijail0.c` that decides a run. -/
structure Env where
  /-- The return value of a call on a jail with the given history; `none`: the library
  aborts. -/
  jail : Jail → JailCall → Option Int
  /-- `minijail_get_original_path`: the target's path outside the jail's new root. -/
  getOriginalPath : Jail → String → String
  /-- `lookup_user`: the uid and the primary gid of a user name. -/
  lookupUser : String → Option (UInt32 × UInt32)
  /-- `lookup_group`: the gid of a group name. -/
  lookupGroup : String → Option UInt32
  /-- `parse_size` of `util.c`. -/
  parseSize : String → Option UInt64
  /-- `access (path, X_OK) == 0`. -/
  access : String → Bool
  /-- `get_elf_linkage` of `elfparse.c`. -/
  getElfLinkage : String → ElfType
  getuid : UInt32
  getgid : UInt32
  capSetgid : CapProbe
  /-- The `errno` of a failed `setpgid (0, 0)`; `none` when it succeeds. -/
  setpgid : Option Nat
  /-- The `dlerror ()` text when `dlopen` of `libminijailpreload.so` fails. -/
  dlopen : Option String
  intCast : Libc.IntCast

/-- `EPERM` of `errno.h`. -/
def EPERM : Nat := 1

namespace Jail

/-- Make the call `c` on `j`: the library's return value and the jail with `c` recorded. -/
def callRet (env : Env) (j : Jail) (c : JailCall) : Except Exit (Int × Jail) :=
  match env.jail j c with
  | some r => .ok (r, c :: j)
  | none => .error .abort

/-- A call whose value the code ignores. -/
def call (env : Env) (j : Jail) (c : JailCall) : Except Exit Jail :=
  (callRet env j c).map Prod.snd

/-- `if (minijail_x (j, ...)) { fprintf (stderr, msg); exit (1); }`. -/
def check (env : Env) (j : Jail) (c : JailCall) (msg : String) : Except Exit Jail :=
  match callRet env j c with
  | .ok (0, j') => .ok j'
  | .ok _ => .error (.error msg)
  | .error e => .error e

theorem call_eq_ok {env : Env} {j j' : Jail} {c : JailCall} :
    call env j c = .ok j' ↔ (env.jail j c).isSome ∧ j' = c :: j := by
  unfold call callRet
  cases env.jail j c <;> simp [Except.map, eq_comm]

theorem check_eq_ok {env : Env} {j j' : Jail} {c : JailCall} {msg : String} :
    check env j c msg = .ok j' ↔ env.jail j c = some 0 ∧ j' = c :: j := by
  unfold check callRet
  rcases h : env.jail j c with _ | r
  · simp
  · by_cases hr : r = 0 <;> simp [hr, eq_comm]

end Jail

end Minijail
