import Minijail.Proofs.Accept

/-!
# `Minijail.Proofs.Order`: the verdict of `parse_args` does not depend on the order of options

Three rules are checked inside the option loop, against the flags that earlier options left.
The order of the options could therefore matter. It does not. By `parseArgs_ok_iff`, whether
`parse_args` returns depends on the options only through which options are present
(`Opt.WellFormed` of each one), which keys were given (`given`), and the ELF type of the last
`-T`. A reordering that keeps the relative order of the occurrences of each option
(`Reorders`) changes none of these. The program named after the options must stay the same.

`reorders_swap` exchanges two neighbouring options of different keys. Every such reordering is
a sequence of these swaps.
-/

set_option autoImplicit false

namespace Minijail

/-- `opts₂` holds the options of `opts₁` in another order, and the occurrences of each option
are in the same relative order in both. -/
def Reorders (opts₁ opts₂ : List Opt) : Prop :=
  ∀ k, opts₁.filter (·.key == k) = opts₂.filter (·.key == k)

/-- Two neighbouring options with different keys may change places. -/
theorem reorders_swap (pre post : List Opt) (a b : Opt) (h : a.key ≠ b.key) :
    Reorders (pre ++ a :: b :: post) (pre ++ b :: a :: post) := by
  intro k
  simp only [List.filter_append, List.filter_cons]
  split_ifs with ha hb <;> simp_all

section Reorders

variable {opts₁ opts₂ : List Opt} (h : Reorders opts₁ opts₂)
include h

theorem Reorders.given_eq (k : Char) : given opts₁ k = given opts₂ k := by
  have hk := h k
  rw [Bool.eq_iff_iff, given, given, List.any_eq_true, List.any_eq_true]
  constructor
  · rintro ⟨o, ho, hok⟩
    exact ⟨o, List.mem_of_mem_filter (hk ▸ List.mem_filter.2 ⟨ho, hok⟩), hok⟩
  · rintro ⟨o, ho, hok⟩
    exact ⟨o, List.mem_of_mem_filter (hk.symm ▸ List.mem_filter.2 ⟨ho, hok⟩), hok⟩

theorem Reorders.mem_iff (o : Opt) : o ∈ opts₁ ↔ o ∈ opts₂ := by
  have hmem : ∀ opts : List Opt, o ∈ opts ↔ o ∈ opts.filter (·.key == o.key) := fun _ => by
    simp
  rw [hmem opts₁, hmem opts₂, h o.key]

end Reorders

/-- Only the `-T` options decide the ELF type. -/
theorem elfOf_filter (opts : List Opt) : elfOf opts = elfOf (opts.filter (·.key == 'T')) := by
  suffices ∀ e : ElfType, opts.foldl (fun e o => match o with | .T type => elfOfType type e | _ => e) e =
      (opts.filter (·.key == 'T')).foldl
        (fun e o => match o with | .T type => elfOfType type e | _ => e) e from this _
  induction opts with
  | nil => intro e; rfl
  | cons o opts ih =>
    intro e
    -- `-T` steps both sides; any other option is dropped on the right and leaves `e` on the left
    cases o <;> exact ih _

theorem Reorders.flagsOf_eq {opts₁ opts₂ : List Opt} (h : Reorders opts₁ opts₂) :
    flagsOf opts₁ = flagsOf opts₂ := by
  simp only [flagsOf, h.given_eq, elfOf_filter opts₁, elfOf_filter opts₂, h 'T']

theorem Reorders.noConflict_iff {opts₁ opts₂ : List Opt} (h : Reorders opts₁ opts₂) :
    NoConflict opts₁ ↔ NoConflict opts₂ := by
  simp only [NoConflict, h.given_eq]

/-- The target part reads only `argv[optind]`. -/
theorem targetOk_congr {env : Env} {f : Flags} {operands₁ operands₂ : List String}
    (h : operands₁.head? = operands₂.head?) :
    TargetOk env f operands₁ ↔ TargetOk env f operands₂ := by
  rcases operands₁ with _ | ⟨p₁, _⟩ <;> rcases operands₂ with _ | ⟨p₂, _⟩ <;>
    simp_all [TargetOk]

theorem Reorders.accepts_iff {env : Env} {opts₁ opts₂ : List Opt}
    {operands₁ operands₂ : List String}
    (h : Reorders opts₁ opts₂) (hprog : operands₁.head? = operands₂.head?) :
    Accepts env opts₁ operands₁ ↔ Accepts env opts₂ operands₂ := by
  have hwf : (∀ o ∈ opts₁, o.WellFormed env) ↔ ∀ o ∈ opts₂, o.WellFormed env :=
    forall_congr' fun o => imp_congr_left (h.mem_iff o)
  constructor
  · rintro ⟨h₁, h₂, h₃, h₄, h₅⟩
    exact ⟨hwf.1 h₁, h.noConflict_iff.1 h₂, h.flagsOf_eq ▸ h₃, h.given_eq 'M' ▸ h₄,
      (targetOk_congr hprog).1 (h.flagsOf_eq ▸ h₅)⟩
  · rintro ⟨h₁, h₂, h₃, h₄, h₅⟩
    exact ⟨hwf.2 h₁, h.noConflict_iff.2 h₂, h.flagsOf_eq ▸ h₃, h.given_eq 'M' ▸ h₄,
      h.flagsOf_eq ▸ (targetOk_congr hprog).2 h₅⟩

theorem parseArgs_ok_iff_of_reorders {env : Env} (hjail : ∀ j c, env.jail j c = some 0)
    (hpath : ∀ j, env.getOriginalPath j = env.getOriginalPath []) {argv₁ argv₂ : List String}
    (hopts : Reorders (options argv₁) (options argv₂))
    (hprog : (operands argv₁).head? = (operands argv₂).head?) :
    ((∃ r, parseArgs env argv₁ = .ok r) ↔ (∃ r, parseArgs env argv₂ = .ok r)) ∧
      ((given (options argv₁) 'C' ∧ given (options argv₁) 'P') ∨
        (given (options argv₁) 's' ∧ given (options argv₁) 'S') ∨
        (given (options argv₁) 'G' ∧ given (options argv₁) 'y') →
        ∀ r, parseArgs env argv₁ ≠ .ok r) := by
  constructor
  · rw [parseArgs_ok_iff hjail hpath, parseArgs_ok_iff hjail hpath]
    exact hopts.accepts_iff hprog
  intro hpair r hr
  have hnc := ((parseArgs_ok_iff hjail hpath argv₁).1 ⟨r, hr⟩).noConflict
  rcases hpair with hp | hp | hp
  · exact hnc.2.1 hp
  · exact hnc.1 hp
  · exact hnc.2.2 hp

theorem parseArgs_ok_iff_of_reorders_mountNs :
    (∀ j c, sampleEnv.jail j c = some 0) ∧
      (∀ j, sampleEnv.getOriginalPath j = sampleEnv.getOriginalPath []) ∧
      Reorders (options ["minijail0", "-v", "-b", "/a,/b", "/bin/true"])
        (options ["minijail0", "-b", "/a,/b", "-v", "/bin/true"]) ∧
      (operands ["minijail0", "-v", "-b", "/a,/b", "/bin/true"]).head? =
        (operands ["minijail0", "-b", "/a,/b", "-v", "/bin/true"]).head? ∧
      ((∃ r, parseArgs sampleEnv ["minijail0", "-v", "-b", "/a,/b", "/bin/true"] = .ok r) ↔
        (∃ r, parseArgs sampleEnv ["minijail0", "-b", "/a,/b", "-v", "/bin/true"] = .ok r)) := by
  have hopts : Reorders (options ["minijail0", "-v", "-b", "/a,/b", "/bin/true"])
      (options ["minijail0", "-b", "/a,/b", "-v", "/bin/true"]) :=
    reorders_swap [] [] .v (.b "/a,/b") (by decide)
  exact ⟨fun _ _ => rfl, fun _ => rfl, hopts, rfl,
    (parseArgs_ok_iff_of_reorders (fun _ _ => rfl) (fun _ => rfl) hopts rfl).1⟩

end Minijail
