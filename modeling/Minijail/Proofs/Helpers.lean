import Minijail.Minijail0.Helpers

/-!
# `Minijail.Proofs.Helpers`: what each helper of `minijail0.c` does when it returns

One spec lemma per helper. A helper that returns has made its calls on the jail, and `set_user`
and `set_group` have also written ids. `userCall`, `groupCall`, `bindCalls`, `rlimitCalls` and
`mountCalls` name the calls, and `userIds` and `groupGid` the ids. Later proofs cite these lemmas
and never unfold a helper.

`addBinding_eq`, `addRlimit_eq` and `addMount_eq` give the three helpers that cut their argument
with `strtok` through the pieces of the argument (`strtok_tokens`). `addBinding_eq_ok` and its
siblings state when an argument is accepted: it has enough pieces and the library accepts the
call they make, whatever the text of the pieces.
-/

set_option autoImplicit false

namespace Minijail

open Libc

/-! ### Inversion of `Except` -/

theorem except_map_eq_ok {ε α β : Type} {x : Except ε α} {f : α → β} {b : β} :
    x.map f = .ok b ↔ ∃ a, x = .ok a ∧ f a = b := by
  cases x <;> simp [Except.map]

theorem except_bind_eq_ok {ε α β : Type} {x : Except ε α} {f : α → Except ε β}
    {b : β} : x >>= f = .ok b ↔ ∃ a, x = .ok a ∧ f a = .ok b := by
  cases x <;> simp [bind, Except.bind]

@[simp] theorem except_ok_bind {ε α β : Type} (a : α) (f : α → Except ε β) :
    (Except.ok a >>= f) = f a := rfl

@[simp] theorem except_error_bind {ε α β : Type} (e : ε) (f : α → Except ε β) :
    (Except.error e >>= f) = .error e := rfl

@[simp] theorem exists_ite_error_ok {ε α : Type} {c : Prop} [Decidable c] (e : ε) (a : α) :
    (∃ b, (if c then Except.error e else Except.ok a) = .ok b) ↔ ¬ c := by
  split_ifs <;> simp_all

@[simp] theorem except_map_exists_ok {ε α β : Type} (x : Except ε α) (f : α → β) :
    (∃ b, x.map f = .ok b) ↔ ∃ a, x = .ok a := by
  cases x <;> simp [Except.map]

/-! ### `set_user` and `set_group` -/

/-- The call `set_user` makes: `minijail_change_uid` of the number `strtod` reads whole, or
`minijail_change_user` of the name. -/
def userCall (env : Env) (user : String) : JailCall :=
  let r := strtod user.data
  if r.endptr = [] ∧ user.data ≠ [] then .changeUid (toUInt32 (r.toInt env.intCast))
  else .changeUser user

/-- What `set_user` writes into `uid` and `gid`, from the gid `gid` before it. A number that
`strtod` reads whole is the uid and leaves the gid. A user name writes the uid and the primary
gid of its entry (`set_user` exits when there is none, so the default is never read). -/
def userIds (env : Env) (user : String) (gid : UInt32) : UInt32 × UInt32 :=
  let r := strtod user.data
  if r.endptr = [] ∧ user.data ≠ [] then (toUInt32 (r.toInt env.intCast), gid)
  else (env.lookupUser user).getD (0, gid)

/-- The call `set_group` makes: `minijail_change_gid` of the number, or
`minijail_change_group` of the name. -/
def groupCall (env : Env) (group : String) : JailCall :=
  let r := strtod group.data
  if r.endptr = [] ∧ group.data ≠ [] then .changeGid (toUInt32 (r.toInt env.intCast))
  else .changeGroup group

/-- What `set_group` writes into `gid`: a number that `strtod` reads whole, or the gid of the
group's entry. -/
def groupGid (env : Env) (group : String) : UInt32 :=
  let r := strtod group.data
  if r.endptr = [] ∧ group.data ≠ [] then toUInt32 (r.toInt env.intCast)
  else (env.lookupGroup group).getD 0

section Ids

variable {env : Env} {j : Jail}

/-- `set_user` made the call `userCall` and writes the ids `userIds`. -/
theorem setUser_eq_ok {user : String} {gid : UInt32} {r : Jail × UInt32 × UInt32}
    (h : setUser env j user gid = .ok r) : r = (userCall env user :: j, userIds env user gid) := by
  unfold setUser at h
  unfold userCall userIds
  dsimp only at h ⊢
  split_ifs at h ⊢
  · -- a number
    obtain ⟨_, h₁, rfl⟩ := except_map_eq_ok.1 h
    obtain ⟨-, rfl⟩ := Jail.call_eq_ok.1 h₁
    rfl
  · -- a user name
    split at h
    · cases h
    · rename_i heq
      obtain ⟨_, h₁, rfl⟩ := except_map_eq_ok.1 h
      obtain ⟨-, rfl⟩ := Jail.check_eq_ok.1 h₁
      simp [heq]

/-- `set_group` made the call `groupCall` and writes the gid `groupGid`. -/
theorem setGroup_eq_ok {group : String} {r : Jail × UInt32}
    (h : setGroup env j group = .ok r) : r = (groupCall env group :: j, groupGid env group) := by
  unfold setGroup at h
  unfold groupCall groupGid
  dsimp only at h ⊢
  split_ifs at h ⊢
  · -- a number
    obtain ⟨_, h₁, rfl⟩ := except_map_eq_ok.1 h
    obtain ⟨-, rfl⟩ := Jail.call_eq_ok.1 h₁
    rfl
  · -- a group name
    split at h
    · cases h
    · rename_i heq
      obtain ⟨_, h₁, rfl⟩ := except_map_eq_ok.1 h
      obtain ⟨-, rfl⟩ := Jail.check_eq_ok.1 h₁
      simp [heq]

/-- `skip_securebits` and `use_caps` pass the value `strtoull` read. -/
theorem hexMaskOption_eq_ok {what arg : String} {call : UInt64 → JailCall} {j' : Jail}
    (h : hexMaskOption what call env j arg = .ok j') : j' = call (strtoull arg.data 16).1 :: j := by
  unfold hexMaskOption at h
  split at h
  · cases h
  · exact (Jail.call_eq_ok.1 h).2

end Ids

/-! ### The comma-separated arguments of `-b`, `-R` and `-k` -/

/-- `add_binding`: the first two pieces are `src` and `dest`. `atoi` of a third piece, or 0,
is the bind's `writeable` flag. -/
theorem addBinding_eq (env : Env) (j : Jail) (arg : String) :
    addBinding env j arg =
      match pieces ',' arg.data with
      | src :: dest :: rest =>
        j.check env (.bind ⟨src⟩ ⟨dest⟩ ((rest.head?.map atoi).getD 0))
          "minijail_bind failed.\n"
      | p => .error (.error ("Bad binding: " ++ cStr p.head? ++ " " ++ cStr p.tail.head? ++
          "\n")) := by
  unfold addBinding
  simp only [strtok_fst, pieces_strtok_snd]
  rcases pieces ',' arg.data with _ | ⟨a, _ | ⟨b, _ | ⟨c, rest⟩⟩⟩ <;> rfl

/-- `add_rlimit`: `atoi` of the first three pieces. -/
theorem addRlimit_eq (env : Env) (j : Jail) (arg : String) :
    addRlimit env j arg =
      match pieces ',' arg.data with
      | type :: cur :: max :: _ =>
        j.check env (.rlimit (atoi type) (atoi cur) (atoi max))
          ("minijail_rlimit '" ++ ⟨type⟩ ++ "," ++ ⟨cur⟩ ++ "," ++ ⟨max⟩ ++
            "' failed.\n")
      | _ => .error (.error ("Bad rlimit '" ++ ⟨strtokCut ',' arg.data⟩ ++ "'.\n")) := by
  unfold addRlimit
  simp only [strtok_fst, pieces_strtok_snd]
  rcases pieces ',' arg.data with _ | ⟨a, _ | ⟨b, _ | ⟨c, rest⟩⟩⟩ <;> rfl

/-- `add_mount`: the first three pieces are `src`, `dest` and `type`. `strtoul` of a fourth
piece, or 0, gives the flags, and a fifth piece, if any, is the data. -/
theorem addMount_eq (env : Env) (j : Jail) (arg : String) :
    addMount env j arg =
      match pieces ',' arg.data with
      | src :: dest :: type :: rest =>
        j.check env (.mountWithData ⟨src⟩ ⟨dest⟩ ⟨type⟩
            ((rest.head?.map fun f => (strtoul f 16).1).getD 0) ((rest.drop 1).head?.map String.mk))
          "minijail_mount failed.\n"
      | p => .error (.error ("Bad mount: " ++ cStr p.head? ++ " " ++ cStr p.tail.head? ++ " " ++
          cStr (p.drop 2).head? ++ "\n")) := by
  unfold addMount
  simp only [strtok_fst, pieces_strtok_snd]
  rcases pieces ',' arg.data with _ | ⟨a, _ | ⟨b, _ | ⟨c, _ | ⟨d, rest⟩⟩⟩⟩ <;> rfl

section Accepted

variable {env : Env} {j j' : Jail} {arg : String}

theorem addBinding_eq_ok : addBinding env j arg = .ok j' ↔
    ∃ src dest rest, pieces ',' arg.data = src :: dest :: rest ∧
      env.jail j (.bind ⟨src⟩ ⟨dest⟩ ((rest.head?.map atoi).getD 0)) = some 0 ∧
      j' = .bind ⟨src⟩ ⟨dest⟩ ((rest.head?.map atoi).getD 0) :: j := by
  rw [addBinding_eq]
  rcases pieces ',' arg.data with _ | ⟨src, _ | ⟨dest, rest⟩⟩
  · simp
  · simp
  · rw [Jail.check_eq_ok]
    exact ⟨fun h => ⟨src, dest, rest, rfl, h⟩, fun ⟨_, _, _, hp, h⟩ => by cases hp; exact h⟩

theorem addRlimit_eq_ok : addRlimit env j arg = .ok j' ↔
    ∃ type cur max rest, pieces ',' arg.data = type :: cur :: max :: rest ∧
      env.jail j (.rlimit (atoi type) (atoi cur) (atoi max)) = some 0 ∧
      j' = .rlimit (atoi type) (atoi cur) (atoi max) :: j := by
  rw [addRlimit_eq]
  rcases pieces ',' arg.data with _ | ⟨type, _ | ⟨cur, _ | ⟨max, rest⟩⟩⟩
  · simp
  · simp
  · simp
  · rw [Jail.check_eq_ok]
    exact ⟨fun h => ⟨type, cur, max, rest, rfl, h⟩, fun ⟨_, _, _, _, hp, h⟩ => by cases hp; exact h⟩

theorem addMount_eq_ok : addMount env j arg = .ok j' ↔
    ∃ src dest type rest, pieces ',' arg.data = src :: dest :: type :: rest ∧
      env.jail j (.mountWithData ⟨src⟩ ⟨dest⟩ ⟨type⟩
        ((rest.head?.map fun f => (strtoul f 16).1).getD 0)
        ((rest.drop 1).head?.map String.mk)) = some 0 ∧
      j' = .mountWithData ⟨src⟩ ⟨dest⟩ ⟨type⟩
        ((rest.head?.map fun f => (strtoul f 16).1).getD 0) ((rest.drop 1).head?.map String.mk) ::
          j := by
  rw [addMount_eq]
  rcases pieces ',' arg.data with _ | ⟨src, _ | ⟨dest, _ | ⟨type, rest⟩⟩⟩
  · simp
  · simp
  · simp
  · rw [Jail.check_eq_ok]
    exact ⟨fun h => ⟨src, dest, type, rest, rfl, h⟩, fun ⟨_, _, _, _, hp, h⟩ => by cases hp; exact h⟩

end Accepted

/-- The call `add_binding` makes for `arg`; none when the argument has fewer than two pieces. -/
def bindCalls (arg : String) : Jail :=
  match pieces ',' arg.data with
  | src :: dest :: rest => [.bind ⟨src⟩ ⟨dest⟩ ((rest.head?.map atoi).getD 0)]
  | _ => []

/-- The call `add_rlimit` makes for `arg`; none with fewer than three pieces. -/
def rlimitCalls (arg : String) : Jail :=
  match pieces ',' arg.data with
  | type :: cur :: max :: _ => [.rlimit (atoi type) (atoi cur) (atoi max)]
  | _ => []

/-- The call `add_mount` makes for `arg`; none with fewer than three pieces. -/
def mountCalls (arg : String) : Jail :=
  match pieces ',' arg.data with
  | src :: dest :: type :: rest =>
    [.mountWithData ⟨src⟩ ⟨dest⟩ ⟨type⟩ ((rest.head?.map fun f => (strtoul f 16).1).getD 0)
      ((rest.drop 1).head?.map String.mk)]
  | _ => []

section Calls

variable {env : Env} {j j' : Jail} {arg : String}

theorem addBinding_calls (h : addBinding env j arg = .ok j') : j' = bindCalls arg ++ j := by
  obtain ⟨src, dest, rest, hp, -, rfl⟩ := addBinding_eq_ok.1 h
  rw [bindCalls, hp]
  rfl

theorem addRlimit_calls (h : addRlimit env j arg = .ok j') : j' = rlimitCalls arg ++ j := by
  obtain ⟨type, cur, max, rest, hp, -, rfl⟩ := addRlimit_eq_ok.1 h
  rw [rlimitCalls, hp]
  rfl

theorem addMount_calls (h : addMount env j arg = .ok j') : j' = mountCalls arg ++ j := by
  obtain ⟨src, dest, type, rest, hp, -, rfl⟩ := addMount_eq_ok.1 h
  rw [mountCalls, hp]
  rfl

end Calls

end Minijail
