import Mathlib.Data.List.Basic

/-!
# `Minijail.Libc.Strtok`: `strtok` with a one-character delimiter

`add_binding`, `add_rlimit` and `add_mount` cut their argument at commas with `strtok (arg, ",")`
and then `strtok (NULL, ",")`. One call skips the delimiters at the saved position. Then it
returns the token up to the next delimiter, writes a NUL over that delimiter, and saves the
position after it. With nothing but delimiters left it returns `NULL`. `strtok` thus never
returns an empty token: consecutive, leading and trailing commas vanish.

`strtok_tokens` states this for the whole string. The first call returns the first of the
non-empty pieces that `List.splitOn` cuts, and the saved position holds the other pieces. So
the `k`-th call returns the `k`-th non-empty piece. `strtokCut` is what `printf ("%s", arg)`
shows of the argument once `strtok` has written its first NUL into it (`add_rlimit` prints it).
-/

set_option autoImplicit false

namespace Minijail.Libc

/-- One call of `strtok` with the delimiter `delim` from the saved position `s` (the string
itself for the first call): the token, if any, and the saved position for the next call. -/
def strtok (delim : Char) (s : List Char) : Option (List Char) × List Char :=
  match s.dropWhile (· = delim) with
  | [] => (none, [])
  | t => (some (t.takeWhile (· ≠ delim)), (t.dropWhile (· ≠ delim)).drop 1)

/-- The text of `arg` up to the first NUL `strtok` writes into it: the leading delimiters and
the first token. This is all of `arg` when no delimiter follows the first token. -/
def strtokCut (delim : Char) (arg : List Char) : List Char :=
  arg.takeWhile (· = delim) ++ (arg.dropWhile (· = delim)).takeWhile (· ≠ delim)

/-- The non-empty pieces of `s` between the delimiters `delim`. -/
def pieces (delim : Char) (s : List Char) : List (List Char) :=
  (s.splitOn delim).filter (· ≠ [])

/-- `splitOn` cuts the run up to the first delimiter, then splits what follows that
delimiter. -/
theorem splitOn_eq_takeWhile (delim : Char) (s : List Char) :
    s.splitOn delim = s.takeWhile (· ≠ delim) ::
      (if s.dropWhile (· ≠ delim) = [] then [] else ((s.dropWhile (· ≠ delim)).drop 1).splitOn delim) := by
  induction s with
  | nil => rfl
  | cons c s ih =>
    by_cases h : c = delim
    · subst h
      simp [List.splitOn, List.splitOnP_cons]
    · simp only [List.splitOn, List.splitOnP_cons] at ih ⊢
      simp [h, ih]

/-- A leading delimiter adds only an empty piece. -/
theorem pieces_cons_delim (delim : Char) (s : List Char) :
    pieces delim (delim :: s) = pieces delim s := by
  simp [pieces, List.splitOn, List.splitOnP_cons]

/-- Leading delimiters add no piece. -/
theorem pieces_dropWhile (delim : Char) (s : List Char) :
    pieces delim (s.dropWhile (· = delim)) = pieces delim s := by
  induction s with
  | nil => rfl
  | cons c s ih =>
    by_cases h : c = delim
    · subst h
      simp [ih, pieces_cons_delim]
    · simp [h]

/-- A string that starts with a non-delimiter: its first piece is the run up to the first
delimiter, and the other pieces are those after that delimiter. -/
theorem pieces_of_head_ne (delim c : Char) (s : List Char) (hc : c ≠ delim) :
    pieces delim (c :: s) = (c :: s).takeWhile (· ≠ delim) ::
      pieces delim (((c :: s).dropWhile (· ≠ delim)).drop 1) := by
  rw [pieces, splitOn_eq_takeWhile, List.filter_cons_of_pos (by simp [hc])]
  congr 1
  split_ifs with h
  · rw [h]; rfl
  · rfl

/-- `strtok` returns the first non-empty piece, and the saved position holds the others. -/
theorem strtok_tokens (delim : Char) (s : List Char) :
    (strtok delim s).1 = (pieces delim s).head? ∧
      pieces delim (strtok delim s).2 = (pieces delim s).tail := by
  rw [← pieces_dropWhile delim s]
  unfold strtok
  cases h : s.dropWhile (· = delim) with
  | nil => simp [pieces]
  | cons c t =>
    have hc : c ≠ delim := by
      have := List.head_dropWhile_not (fun x => decide (x = delim)) s (by simp [h])
      simpa [h] using this
    simp [pieces_of_head_ne delim c t hc]

@[simp] theorem strtok_fst (delim : Char) (s : List Char) :
    (strtok delim s).1 = (pieces delim s).head? :=
  (strtok_tokens delim s).1

@[simp] theorem pieces_strtok_snd (delim : Char) (s : List Char) :
    pieces delim (strtok delim s).2 = (pieces delim s).tail :=
  (strtok_tokens delim s).2

/-- Fields without a delimiter, joined by it: `strtok` gives back the non-empty fields, in order.
An empty field is skipped, so every later field moves one place forward. -/
theorem pieces_intercalate (delim : Char) {fields : List (List Char)} (hne : fields ≠ [])
    (hdelim : ∀ f ∈ fields, delim ∉ f) :
    pieces delim ([delim].intercalate fields) = fields.filter (· ≠ []) := by
  rw [pieces, List.splitOn_intercalate fields delim hdelim hne]

end Minijail.Libc
