import Minijail.Jail
import Minijail.Libc.Strtok
import Minijail.Libc.Printf

/-!
# `Minijail.Minijail0.Helpers`: the static helpers of `minijail0.c`

The functions `parse_args` calls for its options, in the order of `minijail0.c` (lines
25-231): `set_user`, `set_group`, `skip_securebits`, `use_caps`, `add_binding`, `add_rlimit`,
`add_mount`, `build_idmap`, `has_cap_setgid` and `set_ugid_mapping`.

A helper that takes the jail returns the jail with its calls recorded. A helper that writes
through pointers (`set_user`, `set_group`) also returns the new values. Every `exit (1)`
after a message is `Exit.error` with the message `fprintf` prints: a `%s` of a `NULL`
token prints `(null)`, as glibc does. `skip_securebits` and `use_caps` differ only in their
message and the call they make: both are `hexMaskOption`.
-/

set_option autoImplicit false

namespace Minijail

open Libc

/-- `%s` of a `strtok` token, which glibc prints as `(null)` when it is `NULL`. -/
def cStr : Option (List Char) → String
  | some s => ⟨s⟩
  | none => "(null)"

/-- `set_user (j, arg, &uid, &gid)` with `*out_gid = outGid`. A non-empty string that `strtod`
reads whole is a numeric uid; any other is a user name, whose lookup also writes the user's
primary gid. Returns the jail and the new `*out_uid` and `*out_gid`. -/
def setUser (env : Env) (j : Jail) (arg : String) (outGid : UInt32) :
    Except Exit (Jail × UInt32 × UInt32) :=
  let r := strtod arg.data
  if r.endptr = [] ∧ arg.data ≠ [] then
    let uid := toUInt32 (r.toInt env.intCast)
    (j.call env (.changeUid uid)).map fun j => (j, uid, outGid)
  else
    match env.lookupUser arg with
    | none => .error (.error ("Bad user: '" ++ arg ++ "'\n"))
    | some (uid, gid) =>
      (j.check env (.changeUser arg) ("Bad user: '" ++ arg ++ "'\n")).map fun j => (j, uid, gid)

/-- `set_group (j, arg, &gid)`: a numeric gid, or a group name to look up. Returns the jail and
the new `*out_gid`. -/
def setGroup (env : Env) (j : Jail) (arg : String) : Except Exit (Jail × UInt32) :=
  let r := strtod arg.data
  if r.endptr = [] ∧ arg.data ≠ [] then
    let gid := toUInt32 (r.toInt env.intCast)
    (j.call env (.changeGid gid)).map fun j => (j, gid)
  else
    match env.lookupGroup arg with
    | none => .error (.error ("Bad group: '" ++ arg ++ "'\n"))
    | some gid =>
      (j.check env (.changeGroup arg) ("Bad group: '" ++ arg ++ "'\n")).map fun j => (j, gid)

/-- The body of `skip_securebits` and `use_caps`: read `arg` with `strtoull (arg, &end, 16)`,
reject it when `*end` is not the end of the string, and pass the value to `call`. `what`
starts the message. -/
def hexMaskOption (what : String) (call : UInt64 → JailCall) (env : Env) (j : Jail)
    (arg : String) : Except Exit Jail :=
  if (strtoull arg.data 16).2 ≠ [] then .error (.error (what ++ ": '" ++ arg ++ "'\n"))
  else j.call env (call (strtoull arg.data 16).1)

/-- `skip_securebits (j, arg)`. -/
def skipSecurebits (env : Env) (j : Jail) (arg : String) : Except Exit Jail :=
  hexMaskOption "Invalid securebit mask" .skipSettingSecurebits env j arg

/-- `use_caps (j, arg)`. -/
def useCaps (env : Env) (j : Jail) (arg : String) : Except Exit Jail :=
  hexMaskOption "Invalid cap set" .useCaps env j arg

/-- `add_binding (j, arg)`: `src,dest[,writeable]`, cut by `strtok`. Each `strtok` call is the
pair of its token and the position it saves for the next call. -/
def addBinding (env : Env) (j : Jail) (arg : String) : Except Exit Jail :=
  let src := strtok ',' arg.data
  let dest := strtok ',' src.2
  let flags := strtok ',' dest.2
  match src.1, dest.1 with
  | some src, some dest =>
    j.check env (.bind ⟨src⟩ ⟨dest⟩ (match flags.1 with | some f => atoi f | none => 0))
      "minijail_bind failed.\n"
  | src, dest => .error (.error ("Bad binding: " ++ cStr src ++ " " ++ cStr dest ++ "\n"))

/-- `add_rlimit (j, arg)`: `type,cur,max`, cut by `strtok`, each read with `atoi`. The message
for a short argument prints `arg` as `strtok` left it (`strtokCut`). -/
def addRlimit (env : Env) (j : Jail) (arg : String) : Except Exit Jail :=
  let type := strtok ',' arg.data
  let cur := strtok ',' type.2
  let max := strtok ',' cur.2
  match type.1, cur.1, max.1 with
  | some type, some cur, some max =>
    j.check env (.rlimit (atoi type) (atoi cur) (atoi max))
      ("minijail_rlimit '" ++ ⟨type⟩ ++ "," ++ ⟨cur⟩ ++ "," ++ ⟨max⟩ ++ "' failed.\n")
  | _, _, _ => .error (.error ("Bad rlimit '" ++ ⟨strtokCut ',' arg.data⟩ ++ "'.\n"))

/-- `add_mount (j, arg)`: `src,dest,type[,flags][,data]`, cut by `strtok`; the flags are read
with `strtoul (flags, NULL, 16)`. -/
def addMount (env : Env) (j : Jail) (arg : String) : Except Exit Jail :=
  let src := strtok ',' arg.data
  let dest := strtok ',' src.2
  let type := strtok ',' dest.2
  let flags := strtok ',' type.2
  let data := strtok ',' flags.2
  match src.1, dest.1, type.1 with
  | some src, some dest, some type =>
    j.check env (.mountWithData ⟨src⟩ ⟨dest⟩ ⟨type⟩
        (match flags.1 with | some f => (strtoul f 16).1 | none => 0) (data.1.map String.mk))
      "minijail_mount failed.\n"
  | src, dest, type =>
    .error (.error ("Bad mount: " ++ cStr src ++ " " ++ cStr dest ++ " " ++ cStr type ++ "\n"))

/-- `IDMAP_LEN`, the size of the buffer of `build_idmap`. -/
def IDMAP_LEN : Nat := 32

/-- `build_idmap (id, lowerid)`: `snprintf` of `"%d %d 1"` into `IDMAP_LEN` bytes, and the exit
when the output does not fit. -/
def buildIdmap (id lowerid : UInt32) : Except Exit String :=
  let (ret, idmap) :=
    snprintf IDMAP_LEN (formatD (signedOf id) ++ ' ' :: formatD (signedOf lowerid) ++ " 1".data)
  if IDMAP_LEN ≤ ret then .error (.error "Could not build id map.\n") else .ok ⟨idmap⟩

/-- `has_cap_setgid ()`: whether `CAP_SETGID` is in the effective set, with an exit when a
libcap call fails. -/
def hasCapSetgid : CapProbe → Except Exit Bool
  | .unsupported => .ok false
  | .probed effective => .ok effective
  | .getProcFails err => .error (.error ("Could not get process' capabilities: " ++ err ++ "\n"))
  | .getFlagFails err => .error (.error ("Could not get the value of CAP_SETGID: " ++ err ++ "\n"))
  | .freeFails err => .error (.error ("Could not free capabilities: " ++ err ++ "\n"))

/-- The map of one side of `set_ugid_mapping`: the map of `-m` or `-M`, or, without one,
`build_idmap (id, callerId)`, which maps the caller's id to the chosen one. -/
def idMapOrDefault (map : Option String) (id callerId : UInt32) : Except Exit String :=
  match map with
  | some map => .ok map
  | none => buildIdmap id callerId

/-- The `if (set_uidmap)` block of `set_ugid_mapping`. -/
def setUidMapping (env : Env) (j : Jail) (uid : UInt32) (uidmap : Option String) :
    Except Exit Jail :=
  j.call env .namespaceUser >>= fun j => j.call env .namespacePids >>= fun j =>
  idMapOrDefault uidmap uid env.getuid >>= fun uidmap =>
  j.check env (.uidmap uidmap) "Could not set uid map.\n"

/-- The `if (set_gidmap)` block of `set_ugid_mapping`. Unlike the uid block, without
`CAP_SETGID` it also disables `setgroups`. -/
def setGidMapping (env : Env) (j : Jail) (gid : UInt32) (gidmap : Option String) :
    Except Exit Jail :=
  j.call env .namespaceUser >>= fun j => j.call env .namespacePids >>= fun j =>
  idMapOrDefault gidmap gid env.getgid >>= fun gidmap =>
  hasCapSetgid env.capSetgid >>= fun cap =>
  (if cap then .ok j else j.call env .namespaceUserDisableSetgroups) >>= fun j =>
  j.check env (.gidmap gidmap) "Could not set gid map.\n"

/-- `set_ugid_mapping (j, set_uidmap, uid, uidmap, set_gidmap, gid, gidmap)`. -/
def setUgidMapping (env : Env) (j : Jail) (setUidmap : Bool) (uid : UInt32)
    (uidmap : Option String) (setGidmap : Bool) (gid : UInt32) (gidmap : Option String) :
    Except Exit Jail :=
  (if setUidmap then setUidMapping env j uid uidmap else .ok j) >>= fun j =>
  if setGidmap then setGidMapping env j gid gidmap else .ok j

end Minijail
