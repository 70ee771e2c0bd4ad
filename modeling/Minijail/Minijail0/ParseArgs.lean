import Minijail.Minijail0.Helpers
import Minijail.Libc.Getopt

/-!
# `Minijail.Minijail0.ParseArgs`: `parse_args`

`parse_args` (`minijail0.c`, lines 329-705) reads the options with `getopt_long` and handles
each one in its `switch`. After the loop it checks the rules that need every option: `--ambient`
needs `-c`, `-b` needs `-C`, `-P` or `-v`, and `-K` needs `-v`. It also sets up the uid and gid
maps, and finds the ELF type of the target when `-T` did not give it. It rejects `-c` on a
static target without `--ambient`. Three rules are checked inside the loop against what earlier
options set: `-s` against `-S`, `-C` against `-P`, and `-G` against `-y`.

`Opt` is what the loop receives from `getopt_long`: one constructor per `case` label, with
`optarg` where the option has one, and `h` and `unknown` (`'?'`) for the `default` label.
`Opt.key` is the value `getopt_long` returned. `ParseState` holds the locals of `parse_args`
and the two out-parameters `*exit_immediately` and `*elftype`. `parseOpt` is one turn of the
loop, `parseArgsTail` is everything after it, and `parseArgs` returns the final state and
`argv` from `optind` on, the value `main` adds to `argv`.

`-m` and `-M` keep their argument as `strdup` copies it. `use_seccomp_filter` is set exactly when
`filter_path` is, so the state keeps only the path. Allocation (`strndup`, `strdup`,
`malloc`) is taken to succeed.
-/

set_option autoImplicit false

namespace Minijail

open Libc

/-- What one call of `getopt_long` hands to the `switch` of `parse_args`. -/
inductive Opt where
  | u (user : String)
  | g (group : String)
  | n
  | s
  | S (file : String)
  | l
  | L
  | b (binding : String)
  | B (mask : String)
  | c (caps : String)
  | C (dir : String)
  | k (mount : String)
  | K
  | P (dir : String)
  | f (file : String)
  | t (size : Option String)
  | v
  | V (file : String)
  | r
  | G
  | y
  | N
  | p
  | e (file : Option String)
  | i
  | H
  | I
  | U
  | m (uidmap : Option String)
  | M (gidmap : Option String)
  | a (table : String)
  | R (rlimit : String)
  | T (type : String)
  | w
  | Y
  | z
  | d
  /-- `--ambient`, `val` 128. -/
  | ambient
  /-- `--uts[=name]`, `val` 129. -/
  | uts (name : Option String)
  /-- `--logging=system`, `val` 130. -/
  | logging (system : String)
  /-- `-h` or `--help`, which reach the `default` label. -/
  | h
  /-- `'?'`: an unknown option or a missing argument. -/
  | unknown
  deriving DecidableEq, Repr

/-- The value `getopt_long` returned for the option: its character, `'\x80'` to `'\x82'` for
the `val`s 128 to 130 of the long options, `'?'` for `unknown`. -/
def Opt.key : Opt → Char
  | .u _ => 'u' | .g _ => 'g' | .n => 'n' | .s => 's' | .S _ => 'S' | .l => 'l' | .L => 'L'
  | .b _ => 'b' | .B _ => 'B' | .c _ => 'c' | .C _ => 'C' | .k _ => 'k' | .K => 'K'
  | .P _ => 'P' | .f _ => 'f' | .t _ => 't' | .v => 'v' | .V _ => 'V' | .r => 'r' | .G => 'G'
  | .y => 'y' | .N => 'N' | .p => 'p' | .e _ => 'e' | .i => 'i' | .H => 'H' | .I => 'I'
  | .U => 'U' | .m _ => 'm' | .M _ => 'M' | .a _ => 'a' | .R _ => 'R' | .T _ => 'T'
  | .w => 'w' | .Y => 'Y' | .z => 'z' | .d => 'd' | .ambient => '\x80' | .uts _ => '\x81'
  | .logging _ => '\x82' | .h => 'h' | .unknown => '?'

/-- The `case` label of the value `val` with `optarg`. `getopt_long` gives an argument to
exactly the options that take one, so the other pairs never arise; they fall to `unknown`. -/
def Opt.ofVal : Char → Option String → Opt
  | 'u', some x => .u x | 'g', some x => .g x | 's', _ => .s | 'S', some x => .S x
  | 'c', some x => .c x | 'C', some x => .C x | 'P', some x => .P x | 'b', some x => .b x
  | 'B', some x => .B x | 'V', some x => .V x | 'f', some x => .f x | 'm', x => .m x
  | 'M', x => .M x | 'k', some x => .k x | 'a', some x => .a x | 'e', x => .e x
  | 'R', some x => .R x | 'T', some x => .T x | 'v', _ => .v | 'r', _ => .r | 'G', _ => .G
  | 'h', _ => .h | 'H', _ => .H | 'i', _ => .i | 'n', _ => .n | 'N', _ => .N | 'p', _ => .p
  | 'l', _ => .l | 'L', _ => .L | 't', x => .t x | 'I', _ => .I | 'U', _ => .U | 'K', _ => .K
  | 'w', _ => .w | 'y', _ => .y | 'Y', _ => .Y | 'z', _ => .z | 'd', _ => .d
  | '\x80', _ => .ambient | '\x81', x => .uts x | '\x82', some x => .logging x
  | _, _ => .unknown

/-- The `optstring` of `parse_args`. -/
def optstring : String := "+u:g:sS:c:C:P:b:B:V:f:m::M::k:a:e::R:T:vrGhHinNplLt::IUKwyYzd"

/-- The `long_options` of `parse_args`. -/
def longOptions : List LongOption :=
  [⟨"help", .noArgument, 'h'⟩, ⟨"mount-dev", .noArgument, 'd'⟩,
    ⟨"ambient", .noArgument, '\x80'⟩, ⟨"uts", .optionalArgument, '\x81'⟩,
    ⟨"logging", .requiredArgument, '\x82'⟩]

/-- The options `parse_args` receives for `argv`, in order. -/
def options (argv : List String) : List Opt :=
  (getoptLong argv optstring longOptions).1.map fun o => Opt.ofVal o.1 o.2

/-- `argv` from the `optind` at which `getopt_long` stops. -/
def operands (argv : List String) : List String :=
  (getoptLong argv optstring longOptions).2

/-- `path_max` of `parse_args`. -/
def pathMax : Nat := 4096

/-- The locals of `parse_args`, and its out-parameters `*exit_immediately` and `*elftype`,
with the values they start with. -/
structure ParseState where
  forward : Bool := true
  binding : Bool := false
  chroot : Bool := false
  pivotRoot : Bool := false
  mountNs : Bool := false
  skipRemount : Bool := false
  inheritSupplGids : Bool := false
  keepSupplGids : Bool := false
  caps : Bool := false
  ambientCaps : Bool := false
  seccomp : Int := -1
  uid : UInt32 := 0
  gid : UInt32 := 0
  uidmap : Option String := none
  gidmap : Option String := none
  setUidmap : Bool := false
  setGidmap : Bool := false
  filterPath : Option String := none
  logToStderr : Bool := false
  exitImmediately : Bool := false
  elftype : ElfType := .ELFERROR
  jail : Jail := []
  deriving DecidableEq, Repr

namespace ParseState

/-- A call on the jail of `st` whose value is ignored. -/
def call (env : Env) (st : ParseState) (c : JailCall) : Except Exit ParseState :=
  (st.jail.call env c).map fun j => { st with jail := j }

/-- A call on the jail of `st` that exits with `msg` unless it returns 0. -/
def check (env : Env) (st : ParseState) (c : JailCall) (msg : String) :
    Except Exit ParseState :=
  (st.jail.check env c msg).map fun j => { st with jail := j }

end ParseState

/-- One turn of the option loop: the `case` of `o`. -/
def parseOpt (env : Env) (st : ParseState) : Opt → Except Exit ParseState
  | .u user => (setUser env st.jail user st.gid).map fun r => { st with jail := r.1, uid := r.2.1, gid := r.2.2 }
  | .g group => (setGroup env st.jail group).map fun r => { st with jail := r.1, gid := r.2 }
  | .n => st.call env .noNewPrivs
  | .s =>
    if st.seccomp ≠ -1 ∧ st.seccomp ≠ 1 then .error (.error "Do not use -s & -S together.\n")
    else { st with seccomp := 1 }.call env .useSeccomp
  | .S file =>
    if st.seccomp ≠ -1 ∧ st.seccomp ≠ 2 then .error (.error "Do not use -s & -S together.\n")
    else { st with seccomp := 2 }.call env .useSeccompFilter >>= fun st =>
      if pathMax ≤ file.utf8ByteSize then .error (.error "Filter path is too long.\n")
      else .ok { st with filterPath := some file }
  | .l => st.call env .namespaceIpc
  | .L => st.call env .logSeccompFilterFailures
  | .b arg => (addBinding env st.jail arg).map fun j => { st with jail := j, binding := true }
  | .B arg => (skipSecurebits env st.jail arg).map fun j => { st with jail := j }
  | .c arg => (useCaps env st.jail arg).map fun j => { st with jail := j, caps := true }
  | .C dir =>
    if st.pivotRoot then .error (.error "Could not set chroot because '-P' was specified.\n")
    else (st.check env (.enterChroot dir) "Could not set chroot.\n").map
      fun st => { st with chroot := true }
  | .k arg => (addMount env st.jail arg).map fun j => { st with jail := j }
  | .K => (st.call env .skipRemountPrivate).map fun st => { st with skipRemount := true }
  | .P dir =>
    if st.chroot then .error (.error "Could not set pivot_root because '-C' was specified.\n")
    else (st.check env (.enterPivotRoot dir) "Could not set pivot_root.\n" >>= fun st =>
      st.call env .namespaceVfs).map fun st => { st with pivotRoot := true }
  | .f file => st.check env (.writePidFile file) "Could not prepare pid file path.\n"
  | .t size => st.call env .namespaceVfs >>= fun st =>
    match size with
    | none => st.call env (.mountTmpSize (64 * 1024 * 1024))
    | some arg =>
      match env.parseSize arg with
      | none => .error (.error "Invalid /tmp tmpfs size.\n")
      | some size => st.call env (.mountTmpSize size)
  | .v => (st.call env .namespaceVfs).map fun st => { st with mountNs := true }
  | .V file => st.call env (.namespaceEnterVfs file)
  | .r => st.call env .remountProcReadonly
  | .G =>
    if st.keepSupplGids then .error (.error "-y and -G are not compatible.\n")
    else (st.call env .inheritUsergroups).map fun st => { st with inheritSupplGids := true }
  | .y =>
    if st.inheritSupplGids then .error (.error "-y and -G are not compatible.\n")
    else (st.call env .keepSupplementaryGids).map fun st => { st with keepSupplGids := true }
  | .N => st.call env .namespaceCgroups
  | .p => st.call env .namespacePids
  | .e file =>
    match file with
    | some file => st.call env (.namespaceEnterNet file)
    | none => st.call env .namespaceNet
  | .i => .ok { st with exitImmediately := true }
  | .H => .error (.exit 1)
  | .I => st.call env .namespacePids >>= fun st => st.call env .runAsInit
  | .U => st.call env .namespaceUser >>= fun st => st.call env .namespacePids
  | .m map => .ok { st with setUidmap := true, uidmap := map }
  | .M map => .ok { st with setGidmap := true, gidmap := map }
  | .a table => st.check env (.useAltSyscall table) "Could not set alt-syscall table.\n"
  | .R arg => (addRlimit env st.jail arg).map fun j => { st with jail := j }
  | .T type =>
    if type = "static" then .ok { st with elftype := .ELFSTATIC }
    else if type = "dynamic" then .ok { st with elftype := .ELFDYNAMIC }
    else .error (.error "ELF type must be 'static' or 'dynamic'.\n")
  | .w => st.call env .newSessionKeyring
  | .Y => st.call env .setSeccompFilterTsync
  | .z => .ok { st with forward := false }
  | .d => st.call env .namespaceVfs >>= fun st => st.call env .mountDev
  | .ambient => { st with ambientCaps := true }.call env .setAmbientCaps
  | .uts name => st.call env .namespaceUts >>= fun st =>
    match name with
    | some name => st.call env (.namespaceSetHostname name)
    | none => .ok st
  | .logging system =>
    if system = "syslog" then .ok { st with logToStderr := false }
    else if system = "stderr" then .ok { st with logToStderr := true }
    else .error (.error "--logger must be 'syslog' or 'stderr'.\n")
  | .h => .error (.exit 0)
  | .unknown => .error (.exit 1)

/-- The `if (ambient_caps && !caps)` check after the loop. -/
def ambientMessage : String :=
  "Can't set ambient capabilities (--ambient) without actually using capabilities (-c).\n"

/-- The `if (binding && !(chroot || pivot_root || mount_ns))` check after the loop. -/
def bindingMessage : String :=
  "Bind mounts require a chroot, pivot_root, or  new mount namespace.\n"

/-- The `if (skip_remount && !mount_ns)` check after the loop. -/
def skipRemountMessage : String :=
  "Can't skip marking mounts as MS_PRIVATE without mount namespaces.\n"

/-- The `if (caps && *elftype == ELFSTATIC && !ambient_caps)` check at the end. -/
def staticCapsMessage : String :=
  "Can't run statically-linked binaries with capabilities (-c) without also setting " ++
    "ambient capabilities. Try passing --ambient.\n"

/-- An `if (bad) { fprintf (stderr, msg); exit (1); }` after the loop. -/
def refuseIf (bad : ParseState → Bool) (msg : String) (st : ParseState) :
    Except Exit ParseState :=
  if bad st then .error (.error msg) else .ok st

/-- `if (log_to_stderr)`: keep stderr open in the jail. -/
def preserveStderr (env : Env) (st : ParseState) : Except Exit ParseState :=
  if st.logToStderr then st.check env (.preserveFd 2 2) "Could not preserve stderr.\n" else .ok st

/-- `if (set_uidmap || set_gidmap) set_ugid_mapping (...)`. -/
def setUpIdMaps (env : Env) (st : ParseState) : Except Exit ParseState :=
  if st.setUidmap || st.setGidmap then
    (setUgidMapping env st.jail st.setUidmap st.uid st.uidmap st.setGidmap st.gid st.gidmap).map
      fun j => { st with jail := j }
  else .ok st

/-- `if (forward) minijail_forward_signals (j)`. -/
def forwardSignals (env : Env) (st : ParseState) : Except Exit ParseState :=
  if st.forward then st.call env .forwardSignals else .ok st

/-- `if (use_seccomp_filter) minijail_parse_seccomp_filters (j, filter_path)`. -/
def parseSeccompFilters (env : Env) (st : ParseState) : Except Exit ParseState :=
  match st.filterPath with
  | some path => st.call env (.parseSeccompFilters path)
  | none => .ok st

/-- `if (*elftype == ELFERROR)`: without `-T`, the target `program`, as the jail's new root
places it, must be executable, and `get_elf_linkage` decides the ELF type. -/
def probeElfType (env : Env) (program : String) (st : ParseState) : Except Exit ParseState :=
  if st.elftype = .ELFERROR then
    if env.access (env.getOriginalPath st.jail program) then
      .ok { st with elftype := env.getElfLinkage (env.getOriginalPath st.jail program) }
    else .error (.error ("Target program '" ++ program ++ "' is not accessible.\n"))
  else .ok st

/-- `parse_args` after the option loop (lines 603-704), with `argv` from `optind` on: the final
state, the target program `argv[optind]` and the arguments after it. -/
def parseArgsTail (env : Env) (st : ParseState) (operands : List String) :
    Except Exit (ParseState × String × List String) :=
  preserveStderr env st >>= setUpIdMaps env >>=
    refuseIf (fun st => st.ambientCaps && !st.caps) ambientMessage >>= forwardSignals env >>=
    refuseIf (fun st => st.binding && !(st.chroot || st.pivotRoot || st.mountNs))
      bindingMessage >>=
    refuseIf (fun st => st.skipRemount && !st.mountNs) skipRemountMessage >>=
    parseSeccompFilters env >>= fun st =>
  match operands with
  | [] => .error (.exit 1)
  | program :: rest =>
    (probeElfType env program st >>=
      refuseIf (fun st => st.caps && st.elftype == .ELFSTATIC && !st.ambientCaps)
        staticCapsMessage).map fun st => (st, program, rest)

/-- `parse_args (j, argc, argv, &exit_immediately, &elftype)` with `j = minijail_new ()`: the
final state, and `argv` after `main` adds the returned `optind`, as its first element (the
target program) and the rest. -/
def parseArgs (env : Env) (argv : List String) :
    Except Exit (ParseState × String × List String) :=
  (options argv).foldlM (parseOpt env) {} >>= fun st => parseArgsTail env st (operands argv)

end Minijail
