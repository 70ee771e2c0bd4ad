import Mathlib.Data.List.Basic

/-!
# `Minijail.Libc.Getopt`: glibc's `getopt_long` in `REQUIRE_ORDER` mode

`parse_args` reads its options with `getopt_long (argc, argv, optstring, long_options, NULL)`.
Its `optstring` starts with `+`, so glibc scans in `REQUIRE_ORDER` mode: it stops at the
first argument that is not an option and never permutes `argv`. `getoptLong` returns the
whole sequence of values the loop of `parse_args` receives, each with its `optarg`, and the
arguments from `optind` on.

The rules are glibc's. `--` ends the options and is consumed. An argument that does not start
with `-`, and `-` alone, end the options and are kept. `--name` and `--name=value` are long
options; `name` may be an unambiguous prefix of an option's name. A short cluster such as
`-vr` gives one value per character. A character of `optstring` followed by `:` takes the
rest of its cluster or, when that is empty, the next argument; one followed by `::` takes
only the rest of its cluster. An unknown option, a missing argument, an argument given to a
long option without one, and an ambiguous prefix each give `'?'`. `parse_args` leaves
`opterr` set and its `optstring` does not start with `:`, so glibc prints a message and
returns `'?'` in every one of these cases. The model keeps the value, not the message.

`getoptScan_shortWords` reads a command line back: short options written as a user writes them,
then words that do not start with `-`, give exactly those options and leave those words.
`getoptScan_split` is the shape of every scan: the words it leaves are a suffix of its input, and
the words before them, scanned alone, give the same values and leave nothing. `getoptScan_stop`
says where it stops: the first word it leaves does not start with `-`, is `-` alone, or follows
the `--` that ended the options.
`findLongOption_eq_some` says which option a name selects in a table whose names start with
distinct characters: exactly the one it is a non-empty prefix of.
-/

set_option autoImplicit false

namespace Minijail.Libc

/-- `has_arg` of a long option, and the number of `:` after a character of `optstring`. -/
inductive HasArg where
  | noArgument
  | requiredArgument
  | optionalArgument
  deriving DecidableEq, Repr

/-- An entry of the `long_options` table: `{name, has_arg, flag, val}` with `flag = NULL`,
so `getopt_long` returns `val`. -/
structure LongOption where
  name : String
  hasArg : HasArg
  val : Char
  deriving DecidableEq, Repr

/-- The kind of the short option `c` in `optstring` (read after its leading `+`); `none`
when `c` is not an option. `:` is never an option. -/
def shortKind : List Char → Char → Option HasArg
  | [], _ => none
  | c' :: rest, c =>
    if c' = c ∧ c ≠ ':' then
      some (match rest with
        | ':' :: ':' :: _ => .optionalArgument
        | ':' :: _ => .requiredArgument
        | _ => .noArgument)
    else shortKind rest c

/-- The values of one cluster `-c...` after its `-`, and the option that takes the next
argument, when the cluster ends with an option that requires one. -/
def shortCluster (optstring : List Char) : List Char → List (Char × Option String) × Option Char
  | [] => ([], none)
  | c :: rest =>
    match shortKind optstring c, shortCluster optstring rest with
    | none, (vals, pending) => (('?', none) :: vals, pending)
    | some .noArgument, (vals, pending) => ((c, none) :: vals, pending)
    | some .optionalArgument, _ => ([(c, if rest = [] then none else some ⟨rest⟩)], none)
    | some .requiredArgument, _ =>
      if rest = [] then ([], some c) else ([(c, some ⟨rest⟩)], none)

/-- The long option `name` names: an exact match, or else the only option it is a prefix of,
or the first of several that agree on `has_arg` and `val`. -/
def findLongOption (longopts : List LongOption) (name : List Char) : Option LongOption :=
  match longopts.find? (·.name.data = name) with
  | some o => some o
  | none =>
    match longopts.filter (name.isPrefixOf ·.name.data) with
    | [] => none
    | o :: others =>
      if others.all (fun p => p.hasArg = o.hasArg ∧ p.val = o.val) then some o else none

/-- The value of the long option `--arg` (`arg` after the two dashes), and the option that
takes the next argument, when it requires one and has no `=value`. -/
def longOption (longopts : List LongOption) (arg : List Char) :
    List (Char × Option String) × Option Char :=
  let name := arg.takeWhile (· ≠ '=')
  let value := arg.dropWhile (· ≠ '=')
  match findLongOption longopts name, value with
  | none, _ => ([('?', none)], none)
  | some o, [] =>
    if o.hasArg = .requiredArgument then ([], some o.val) else ([(o.val, none)], none)
  | some o, _ :: v =>
    if o.hasArg = .noArgument then ([('?', none)], none) else ([(o.val, some ⟨v⟩)], none)

/-- The scan from one argument on. `pending` is an option waiting for its argument: the next
argument is its `optarg`, and there is none when the arguments run out. -/
def getoptScan (optstring : List Char) (longopts : List LongOption) :
    Option Char → List String → List (Char × Option String) × List String
  | some _, [] => ([('?', none)], [])
  | some c, arg :: rest =>
    match getoptScan optstring longopts none rest with
    | (vals, operands) => ((c, some arg) :: vals, operands)
  | none, [] => ([], [])
  | none, arg :: rest =>
    match arg.data with
    | ['-', '-'] => ([], rest)
    | '-' :: '-' :: name =>
      match longOption longopts name with
      | (vals, pending) =>
        match getoptScan optstring longopts pending rest with
        | (more, operands) => (vals ++ more, operands)
    | '-' :: c :: cs =>
      match shortCluster optstring (c :: cs) with
      | (vals, pending) =>
        match getoptScan optstring longopts pending rest with
        | (more, operands) => (vals ++ more, operands)
    | _ => ([], arg :: rest)

/-- `getopt_long` over `argv` from `optind = 1`, for an `optstring` that starts with `+`: the
values the calls return before `-1`, each with its `optarg`, and `argv` from the final
`optind`. An empty `argv` (`argc` 0) gives no option and no operand. There the model and the C
code part: `optind` stays 1, so `parse_args` skips its `argc == optind` check and reads
`argv[1]`, past the `NULL` that ends `argv`, which C leaves undefined. -/
def getoptLong (argv : List String) (optstring : String) (longopts : List LongOption) :
    List (Char × Option String) × List String :=
  getoptScan (optstring.data.drop 1) longopts none (argv.drop 1)

/-! ### Reading back a command line of short options

`shortWords` writes a short option and its `optarg` the way a user does. `getoptScan_shortWords`
is the round trip: the scan reads back every option `shortOk` admits, in order, and stops at the
first word that does not start with `-`, which it keeps with all the words after it. -/

/-- The words of the short option `c` with its `optarg`: `-c` alone, `-c` and the argument as
the next word when `c` requires one, and `-cARG` as one word otherwise. -/
def shortWords (optstring : List Char) : Char × Option String → List String
  | (c, none) => [⟨['-', c]⟩]
  | (c, some a) =>
    if shortKind optstring c = some .requiredArgument then [⟨['-', c]⟩, a]
    else [⟨'-' :: c :: a.data⟩]

/-- The short options `getopt_long` reads back from their words: a character of `optstring`
other than `-`, with an argument exactly when it requires one, or with a non-empty one or none
when its argument is optional. -/
def shortOk (optstring : List Char) : Char × Option String → Bool
  | (c, arg) => c != '-' &&
    match shortKind optstring c, arg with
    | some .noArgument, none => true
    | some .requiredArgument, some _ => true
    | some .optionalArgument, none => true
    | some .optionalArgument, some a => !a.data.isEmpty
    | _, _ => false

section Scan

variable (optstring : List Char) (longopts : List LongOption)

theorem getoptScan_cluster {c : Char} (hc : c ≠ '-') (cs : List Char) (rest : List String) :
    getoptScan optstring longopts none (⟨'-' :: c :: cs⟩ :: rest) =
      ((shortCluster optstring (c :: cs)).1 ++
        (getoptScan optstring longopts (shortCluster optstring (c :: cs)).2 rest).1,
        (getoptScan optstring longopts (shortCluster optstring (c :: cs)).2 rest).2) := by
  rw [getoptScan]
  -- the word is neither `--` nor a long option, since `c ≠ '-'`, and it is a cluster
  split <;> rename_i h <;> simp at h
  · exact absurd h.1 hc
  · exact absurd h.1 hc
  · obtain ⟨rfl, rfl⟩ := h
    rfl

/-- A cluster `-cd...` whose first option takes no argument reads as `-c`, then `-d...`. The rest
must not start with `-`: `-c--` is a cluster, but `--` alone ends the options. -/
theorem getoptScan_cluster_noArgument {c d : Char} (hc : c ≠ '-') (hd : d ≠ '-')
    (hkind : shortKind optstring c = some .noArgument) (ds : List Char) (rest : List String) :
    getoptScan optstring longopts none (⟨'-' :: c :: d :: ds⟩ :: rest) =
      getoptScan optstring longopts none (⟨['-', c]⟩ :: ⟨'-' :: d :: ds⟩ :: rest) := by
  have hone : shortCluster optstring [c] = ([(c, none)], none) := by simp [shortCluster, hkind]
  have hcons : shortCluster optstring (c :: d :: ds) =
      ((c, none) :: (shortCluster optstring (d :: ds)).1, (shortCluster optstring (d :: ds)).2) := by
    rw [shortCluster, hkind]
  rw [getoptScan_cluster _ _ hc, getoptScan_cluster _ _ hc, hone, hcons]
  dsimp only
  rw [getoptScan_cluster _ _ hd]
  simp

/-- A cluster `-cARG` whose option requires an argument reads as `-c`, then `ARG` as the next
word. -/
theorem getoptScan_cluster_requiredArgument {c d : Char} (hc : c ≠ '-')
    (hkind : shortKind optstring c = some .requiredArgument) (ds : List Char)
    (rest : List String) :
    getoptScan optstring longopts none (⟨'-' :: c :: d :: ds⟩ :: rest) =
      getoptScan optstring longopts none (⟨['-', c]⟩ :: ⟨d :: ds⟩ :: rest) := by
  rw [getoptScan_cluster _ _ hc, getoptScan_cluster _ _ hc]
  simp [shortCluster, hkind, getoptScan]

/-- A word that does not start with `-` ends the options and is kept. -/
theorem getoptScan_operand (a : String) (ha : a.data.head? ≠ some '-') (rest : List String) :
    getoptScan optstring longopts none (a :: rest) = ([], a :: rest) := by
  rw [getoptScan]
  split
  case h_4 => rfl
  all_goals rename_i h; simp [h] at ha

theorem getoptScan_shortWords (opts : List (Char × Option String)) (ops : List String)
    (hopts : ∀ o ∈ opts, shortOk optstring o)
    (hops : ∀ a ∈ ops.head?, a.data.head? ≠ some '-') :
    getoptScan optstring longopts none ((opts.map (shortWords optstring)).flatten ++ ops) =
      (opts, ops) := by
  induction opts with
  | nil =>
    rcases ops with _ | ⟨a, rest⟩
    · rfl
    · exact getoptScan_operand optstring longopts a (hops a rfl) rest
  | cons o opts ih =>
    obtain ⟨c, arg⟩ := o
    have ho := hopts (c, arg) (List.mem_cons_self _ _)
    have ih := ih fun o h => hopts o (List.mem_cons_of_mem _ h)
    simp only [shortOk, Bool.and_eq_true, bne_iff_ne] at ho
    obtain ⟨hc, hk⟩ := ho
    rw [List.map_cons, List.flatten_cons, List.append_assoc]
    rcases hkind : shortKind optstring c with _ | _ | _ | _ <;> rw [hkind] at hk
    · -- not an option
      simp at hk
    · -- no argument: the word `-c`
      rcases arg with _ | a
      · rw [shortWords, List.singleton_append, getoptScan_cluster _ _ hc]
        simp [shortCluster, hkind, ih]
      · simp at hk
    · -- a required argument: the word `-c`, then the argument
      rcases arg with _ | a
      · simp at hk
      · rw [shortWords, if_pos hkind, List.cons_append, List.singleton_append,
          getoptScan_cluster _ _ hc]
        simp [shortCluster, hkind, getoptScan, ih]
    · -- an optional argument: `-c` alone, or `-cARG`
      rcases arg with _ | a
      · rw [shortWords, List.singleton_append, getoptScan_cluster _ _ hc]
        simp [shortCluster, hkind, ih]
      · rw [shortWords, if_neg (by simp [hkind]), List.singleton_append, getoptScan_cluster _ _ hc]
        simp at hk
        simp [shortCluster, hkind, ih, hk]

/-- Every scan reads a prefix of its words and leaves the rest as they are: scanned alone, the
prefix gives the same values and leaves nothing. -/
theorem getoptScan_split (pending : Option Char) (args : List String)
    (vals : List (Char × Option String)) (ops : List String)
    (h : getoptScan optstring longopts pending args = (vals, ops)) :
    ∃ consumed, args = consumed ++ ops ∧
      getoptScan optstring longopts pending consumed = (vals, []) := by
  induction args generalizing pending vals ops with
  | nil => cases pending <;> (cases h; exact ⟨[], rfl, rfl⟩)
  | cons arg rest ih =>
    cases pending with
    | some c =>
      -- the argument of a pending option
      rcases hs : getoptScan optstring longopts none rest with ⟨vals', ops'⟩
      simp only [getoptScan, hs, Prod.mk.injEq] at h
      obtain ⟨rfl, rfl⟩ := h
      obtain ⟨consumed, rfl, h₂⟩ := ih none vals' ops' hs
      exact ⟨arg :: consumed, rfl, by rw [getoptScan, h₂]⟩
    | none =>
      rw [getoptScan.eq_4] at h
      split at h
      · -- `--`: consumed, and the scan stops
        rename_i heq
        cases h
        exact ⟨[arg], rfl, by rw [getoptScan.eq_4, heq]; rfl⟩
      · -- a long option
        rename_i name hne heq
        obtain ⟨c, name, rfl⟩ := List.exists_cons_of_ne_nil hne
        rcases hl : longOption longopts (c :: name) with ⟨v, p⟩
        rcases hs : getoptScan optstring longopts p rest with ⟨m, o⟩
        simp only [hl, hs, Prod.mk.injEq] at h
        obtain ⟨rfl, rfl⟩ := h
        obtain ⟨consumed, rfl, h₂⟩ := ih p m o hs
        exact ⟨arg :: consumed, rfl, by rw [getoptScan.eq_4, heq]; simp only [hl, h₂]⟩
      · -- a cluster of short options
        rename_i c cs _ hc heq
        rcases hl : shortCluster optstring (c :: cs) with ⟨v, p⟩
        rcases hs : getoptScan optstring longopts p rest with ⟨m, o⟩
        simp only [hl, hs, Prod.mk.injEq] at h
        obtain ⟨rfl, rfl⟩ := h
        obtain ⟨consumed, rfl, h₂⟩ := ih p m o hs
        obtain ⟨data⟩ := arg
        cases heq
        refine ⟨⟨'-' :: c :: cs⟩ :: consumed, rfl, ?_⟩
        rw [getoptScan_cluster _ _ (fun h => hc h) cs consumed, hl]
        simp only [h₂, List.append_nil]
      · -- an operand: the scan stops before it
        cases h
        exact ⟨[], rfl, rfl⟩

/-- Where every scan stops: at the end of its words, at a word that does not start with `-` or is
`-` alone, or right after a `--`, which it consumes. -/
theorem getoptScan_stop (pending : Option Char) (args : List String) :
    ∀ w ∈ (getoptScan optstring longopts pending args).2.head?,
      w.data.head? ≠ some '-' ∨ w.data = ['-'] ∨
        ∃ read, args = read ++ "--" :: (getoptScan optstring longopts pending args).2 := by
  induction args generalizing pending with
  | nil => cases pending <;> nofun
  | cons arg rest ih =>
    -- after `arg` the scan goes on from `rest`, so a stop there is a stop after `arg`
    have step : ∀ p, ∀ w ∈ (getoptScan optstring longopts p rest).2.head?,
        w.data.head? ≠ some '-' ∨ w.data = ['-'] ∨
          ∃ read, arg :: rest = read ++ "--" :: (getoptScan optstring longopts p rest).2 := by
      intro p w hw
      rcases ih p w hw with h | h | ⟨read, hr⟩
      exacts [.inl h, .inr (.inl h), .inr (.inr ⟨arg :: read, congrArg (List.cons arg) hr⟩)]
    cases pending with
    | some c => exact step none
    | none =>
      rw [getoptScan.eq_4]
      split
      · -- `--`, which the scan consumes
        rename_i heq
        intro w _
        obtain ⟨data⟩ := arg
        cases heq
        exact .inr (.inr ⟨[], rfl⟩)
      · -- a long option
        exact step _
      · -- a cluster of short options
        exact step _
      · -- a word that is not an option: the scan stops before it
        rename_i hdd hlong hcluster
        rintro _ ⟨⟩
        rcases hw : arg.data with _ | ⟨c, cs⟩
        · exact .inl (by simp)
        by_cases hc : c = '-'
        · subst hc
          rcases cs with _ | ⟨d, ds⟩
          · exact .inr (.inl rfl)
          by_cases hd : d = '-'
          · subst hd
            exact absurd hw (hlong ds)
          · exact absurd hw (hcluster d ds)
        · exact .inl (by simpa using hc)

end Scan

/-! ### Abbreviated long options -/

theorem cons_prefix_head? {c : Char} {cs l : List Char} (h : c :: cs <+: l) :
    l.head? = some c := by
  obtain ⟨t, rfl⟩ := h
  rfl

/-- In a table whose names start with distinct characters, a non-empty name selects the option
whose name it is a prefix of, and only that one: no abbreviation is ambiguous. -/
theorem findLongOption_eq_some {longopts : List LongOption}
    (hdist : ∀ o ∈ longopts, ∀ o' ∈ longopts, o.name.data.head? = o'.name.data.head? → o = o')
    {c : Char} {cs : List Char} {o : LongOption} :
    findLongOption longopts (c :: cs) = some o ↔ o ∈ longopts ∧ c :: cs <+: o.name.data := by
  -- the options whose names `c :: cs` starts are one option
  have hone : ∀ o₁ ∈ longopts, c :: cs <+: o₁.name.data →
      ∀ o₂ ∈ longopts, c :: cs <+: o₂.name.data → o₁ = o₂ := fun o₁ h₁ p₁ o₂ h₂ p₂ =>
    hdist o₁ h₁ o₂ h₂ ((cons_prefix_head? p₁).trans (cons_prefix_head? p₂).symm)
  have hsel : ∀ o' ∈ longopts, c :: cs <+: o'.name.data →
      (some o' = some o ↔ o ∈ longopts ∧ c :: cs <+: o.name.data) := fun o' ho' hp' =>
    ⟨by rintro ⟨⟩; exact ⟨ho', hp'⟩, fun ⟨ho, hp⟩ => congrArg some (hone o' ho' hp' o ho hp)⟩
  have hmem : ∀ p, p ∈ longopts.filter ((c :: cs).isPrefixOf ·.name.data) ↔
      p ∈ longopts ∧ c :: cs <+: p.name.data := fun p => by
    rw [List.mem_filter, List.isPrefixOf_iff_prefix]
  unfold findLongOption
  split
  · -- an exact match, which the name is a prefix of
    rename_i o' hfind
    have h := List.find?_some hfind
    simp only [decide_eq_true_eq] at h
    exact hsel o' (List.mem_of_find?_eq_some hfind) (h ▸ List.prefix_refl _)
  · -- no exact match: the options the name is a prefix of
    split
    · rename_i hf
      refine ⟨nofun, fun h => ?_⟩
      have := (hmem o).2 h
      rw [hf] at this
      cases this
    · rename_i o' others hf
      rw [hf] at hmem
      obtain ⟨ho', hp'⟩ := (hmem o').1 (List.mem_cons_self _ _)
      have hagree : others.all (fun p => p.hasArg = o'.hasArg ∧ p.val = o'.val) := by
        refine List.all_eq_true.2 fun p hp => ?_
        obtain ⟨h₁, h₂⟩ := (hmem p).1 (List.mem_cons_of_mem _ hp)
        rw [hone p h₁ h₂ o' ho' hp']
        simp
      rw [if_pos hagree]
      exact hsel o' ho' hp'

end Minijail.Libc
