import CommentSpell.Text.Lowercase
import Mathlib.Data.List.Basic

/-!
# Lower case stays lower case

A text in lower case has small characters only (`isSmall_of_mem_lowerFrom`), and a text of small characters is
its own lower case (`lowerFrom_eq_self`), so lowering twice is lowering once (`lower_lower`).

For single characters this is a property of the table: the small letters to which a run leads are in no run
(`misses_caseRuns`).  They are equally far apart, so their ends are compared with the ends of each run; where
the two overlap, one of them has the even and the other the odd code points.
-/

namespace CommentSpell.Text

namespace CaseRun

/-- `run.small n` is the code point of the small letter of `n`, for a code point `n` of `run`. -/
def small (run : CaseRun) (n : Nat) : Nat :=
  (n + run.shift).toNat

/-- `run.isAlternating` iff the small letters of `run` are every second code point, or there is only
one. -/
def isAlternating (run : CaseRun) : Bool :=
  run.step == 2 || run.first == run.last

/-- `run.LeadsToChars` iff the small letters of `run` are characters, and `İ` is none of them. -/
def LeadsToChars (run : CaseRun) : Prop :=
  0 ≤ run.first + run.shift ∧ (run.last + run.shift < 0xD800 ∨ 0xDFFF < run.first + run.shift)
    ∧ run.last + run.shift < 0x110000 ∧ (run.last + run.shift < 0x130 ∨ 0x130 < run.first + run.shift)

instance (run : CaseRun) : Decidable run.LeadsToChars :=
  inferInstanceAs (Decidable (_ ∧ _ ∧ _ ∧ _))

end CaseRun

/-- `misses first last alternating runs` iff no code point from `first` to `last` is in a run of
`runs`, where only every second one counts if `alternating`.  The search ends at the first run above
`last`. -/
def misses (first last : Nat) (alternating : Bool) : List CaseRun → Bool
  | [] => true
  | run :: runs =>
    Nat.blt last run.first
      || (Nat.blt run.last first
          || (alternating && Nat.beq run.step 2 && Nat.beq ((first + run.first) % 2) 1))
        && misses first last alternating runs

/-- The small letters of a run of `caseRuns` are in no run of `caseRuns`. -/
theorem misses_caseRuns : ∀ run ∈ caseRuns,
    misses (run.small run.first) (run.small run.last) run.isAlternating caseRuns := by
  decide +kernel

theorem leadsToChars_caseRuns : ∀ run ∈ caseRuns, run.LeadsToChars := by
  decide +kernel

/-! ### Characters -/

theorem toNat_ofNat {n : Nat} (h : n.isValidChar) : (Char.ofNat n).toNat = n := by
  rw [Char.ofNat, dif_pos h]
  rfl

/-- `lowerChar c` is what the table says, for ASCII letters, too:
`lowerChar c = lowerCharBy caseRuns c`. -/
theorem lowerChar_eq_lowerCharBy (c : Char) : lowerChar c = lowerCharBy caseRuns c := by
  have hascii : ∀ n < 128, (Char.ofNat n).toLower = lowerCharBy caseRuns (Char.ofNat n) := by
    decide +kernel
  rw [lowerChar]
  split
  · rename_i hc
    have h := hascii c.toNat hc
    rwa [Char.ofNat_toNat] at h
  · rfl

theorem lowerCharBy_eq_self_of_misses {first last : Nat} {alternating : Bool} {runs : List CaseRun}
    (h : misses first last alternating runs) {c : Char} (hfirst : first ≤ c.toNat)
    (hlast : c.toNat ≤ last) (hparity : alternating → (c.toNat - first) % 2 = 0) :
    lowerCharBy runs c = c := by
  induction runs with
  | nil => rfl
  | cons run runs ih =>
    simp only [misses, Bool.or_eq_true, Bool.and_eq_true, Nat.blt_eq, Nat.beq_eq] at h
    rw [lowerCharBy]
    split
    · rfl
    · rename_i hbelow
      rcases h with habove | ⟨hout, hrest⟩
      · omega
      · have hnot : ¬ (c.toNat ≤ run.last && (c.toNat - run.first) % run.step == 0) = true := by
          rw [Bool.and_eq_true, decide_eq_true_eq, beq_iff_eq]
          rintro ⟨hle, hmod⟩
          rcases hout with habove | ⟨⟨halternating, hstep⟩, hodd⟩
          · omega
          · have heven := hparity halternating
            rw [hstep] at hmod
            omega
        rw [if_neg hnot, ih hrest]

/-- `lowerCharBy runs c` is `c`, or `c` is in one of `runs` and `lowerCharBy runs c` is its small
letter there. -/
theorem lowerCharBy_cases (runs : List CaseRun) (c : Char) :
    lowerCharBy runs c = c ∨ ∃ run ∈ runs, run.first ≤ c.toNat ∧ c.toNat ≤ run.last
      ∧ (c.toNat - run.first) % run.step = 0 ∧ lowerCharBy runs c = Char.ofNat (run.small c.toNat) := by
  induction runs with
  | nil => exact Or.inl rfl
  | cons run runs ih =>
    rw [lowerCharBy]
    split
    · exact Or.inl rfl
    rename_i hfirst
    split
    · rename_i hin
      rw [Bool.and_eq_true, decide_eq_true_eq, beq_iff_eq] at hin
      exact Or.inr ⟨run, List.mem_cons_self, Nat.not_lt.mp hfirst, hin.1, hin.2, rfl⟩
    · rcases ih with hsame | ⟨other, hmem, hother⟩
      · exact Or.inl hsame
      · exact Or.inr ⟨other, List.mem_cons_of_mem _ hmem, hother⟩

/-- `IsSmall c` iff lowering leaves `c` as it is, wherever `c` stands. -/
def IsSmall (c : Char) : Prop :=
  c ≠ 'Σ' ∧ c ≠ 'İ' ∧ lowerChar c = c

instance (c : Char) : Decidable (IsSmall c) :=
  inferInstanceAs (Decidable (_ ∧ _ ∧ _))

theorem CaseRun.toNat_ofNat_small {run : CaseRun} (h : run.LeadsToChars) {n : Nat} (hfirst : run.first ≤ n)
    (hlast : n ≤ run.last) : (Char.ofNat (run.small n)).toNat = run.small n := by
  obtain ⟨hnonneg, hsurrogate, hmax, -⟩ := h
  refine toNat_ofNat ?_
  rw [Nat.isValidChar, CaseRun.small]
  omega

/-- `lowerCharBy caseRuns` does not move the small letter of a code point `n` of a run of `caseRuns`. -/
theorem lowerCharBy_small {run : CaseRun} (hrun : run ∈ caseRuns) {n : Nat} (hfirst : run.first ≤ n)
    (hlast : n ≤ run.last) (hstep : (n - run.first) % run.step = 0) :
    lowerCharBy caseRuns (Char.ofNat (run.small n)) = Char.ofNat (run.small n) := by
  have hcode := CaseRun.toNat_ofNat_small (leadsToChars_caseRuns run hrun) hfirst hlast
  obtain ⟨hnonneg, -⟩ := leadsToChars_caseRuns run hrun
  refine lowerCharBy_eq_self_of_misses (misses_caseRuns run hrun) ?_ ?_ fun halternating => ?_
  · rw [hcode, CaseRun.small, CaseRun.small]
    omega
  · rw [hcode, CaseRun.small, CaseRun.small]
    omega
  · rw [CaseRun.isAlternating, Bool.or_eq_true, beq_iff_eq, beq_iff_eq] at halternating
    rw [hcode, CaseRun.small, CaseRun.small]
    -- small letters of one run are an even distance apart, or there is only one
    rcases halternating with htwo | hone
    · rw [htwo] at hstep
      omega
    · omega

/-- `lowerChar c` is small, unless `c` is one of the two letters that are lowered apart. -/
theorem isSmall_lowerChar {c : Char} (hsigma : c ≠ 'Σ') (hdotted : c ≠ 'İ') : IsSmall (lowerChar c) := by
  rw [lowerChar_eq_lowerCharBy]
  rcases lowerCharBy_cases caseRuns c with hsame | ⟨run, hrun, hfirst, hlast, hstep, hsmall⟩
  · rw [hsame]
    exact ⟨hsigma, hdotted, by rw [lowerChar_eq_lowerCharBy, hsame]⟩
  · rw [hsmall]
    have hfixed := lowerCharBy_small hrun hfirst hlast hstep
    refine ⟨fun hcapital => ?_, fun hcapital => ?_, by rw [lowerChar_eq_lowerCharBy, hfixed]⟩
    · -- the capital sigma is in a run, so it is no small letter
      have hmoved : lowerCharBy caseRuns 'Σ' ≠ 'Σ' := by decide +kernel
      rw [hcapital] at hfixed
      exact hmoved hfixed
    · obtain ⟨hnonneg, -, -, hnotDotted⟩ := leadsToChars_caseRuns run hrun
      have hcode : 'İ'.toNat = run.small c.toNat := by
        rw [← hcapital]
        exact CaseRun.toNat_ofNat_small (leadsToChars_caseRuns run hrun) hfirst hlast
      have hvalue : 'İ'.toNat = 0x130 := rfl
      rw [hvalue, CaseRun.small] at hcode
      omega

/-! ### Texts -/

/-- `lowerFrom before text = text` if all characters of `text` are small. -/
theorem lowerFrom_eq_self {before text : Text} (h : ∀ c ∈ text, IsSmall c) : lowerFrom before text = text := by
  induction text generalizing before with
  | nil => rfl
  | cons c text ih =>
    obtain ⟨⟨hsigma, hdotted, hsmall⟩, htext⟩ := List.forall_mem_cons.mp h
    rw [lowerFrom, ih htext, if_neg hsigma, if_neg hdotted, hsmall]
    rfl

/-- All characters of `lowerFrom before text` are small. -/
theorem isSmall_of_mem_lowerFrom {before text : Text} {c : Char} (hc : c ∈ lowerFrom before text) :
    IsSmall c := by
  induction text generalizing before with
  | nil => cases hc
  | cons d text ih =>
    rw [lowerFrom] at hc
    rcases List.mem_append.mp hc with hc | hc
    · have hgreek : IsSmall 'σ' ∧ IsSmall 'ς' := by decide +kernel
      have hdot : IsSmall 'i' ∧ IsSmall '\u0307' := by decide +kernel
      split at hc
      · split at hc
        · rw [List.mem_singleton.mp hc]
          exact hgreek.2
        · rw [List.mem_singleton.mp hc]
          exact hgreek.1
      rename_i hsigma
      split at hc
      · rcases List.mem_cons.mp hc with rfl | hc
        · exact hdot.1
        · rw [List.mem_singleton.mp hc]
          exact hdot.2
      · rename_i hdotted
        rw [List.mem_singleton.mp hc]
        exact isSmall_lowerChar hsigma hdotted
    · exact ih hc

/-- **Lower case stays lower case**: `lower (lower text) = lower text`. -/
theorem lower_lower (text : Text) : lower (lower text) = lower text :=
  lowerFrom_eq_self fun _ => isSmall_of_mem_lowerFrom

end CommentSpell.Text
