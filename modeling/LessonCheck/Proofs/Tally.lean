import LessonCheck.CaseFile

/-!
# What a tally counts

A tally keeps its four counts and its list apart, and recording an outcome changes one count or one count and the
list. So they agree with the outcomes recorded, and with each other, since they do at the start and after every
record.
-/

namespace LessonCheck

namespace Verdict

def isSkip : Verdict → Bool
  | skip _ => true
  | _ => false

def isError : Verdict → Bool
  | error _ => true
  | _ => false

end Verdict

namespace Outcome

def isFailure (o : Outcome) : Bool := o.verdict.isFail || o.verdict.isError

/-- An outcome has one verdict: nothing is counted twice or left out. -/
theorem countP_verdicts (os : List Outcome) :
    os.countP (·.verdict.isPass) + os.countP (·.verdict.isFail) + os.countP (·.verdict.isSkip) +
      os.countP (·.verdict.isError) = os.length := by
  induction os with
  | nil => rfl
  | cons o os ih =>
    obtain ⟨name, line, v⟩ := o
    simp only [List.countP_cons, List.length_cons, ← ih]
    cases v <;> simp [Verdict.isPass, Verdict.isFail, Verdict.isSkip, Verdict.isError] <;> omega

theorem countP_isFailure (os : List Outcome) :
    os.countP isFailure = os.countP (·.verdict.isFail) + os.countP (·.verdict.isError) := by
  induction os with
  | nil => rfl
  | cons o os ih =>
    obtain ⟨name, line, v⟩ := o
    simp only [List.countP_cons, ih]
    cases v <;> simp [isFailure, Verdict.isFail, Verdict.isError] <;> omega

end Outcome

namespace Tally

/-- Each count is the number of outcomes with its verdict, and the failures are listed in the order of the outcomes. -/
structure Counts (t : Tally) (os : List Outcome) : Prop where
  passed : t.passed = os.countP (·.verdict.isPass)
  failed : t.failed = os.countP (·.verdict.isFail)
  skipped : t.skipped = os.countP (·.verdict.isSkip)
  errors : t.errors = os.countP (·.verdict.isError)
  failures : t.failures = os.filter Outcome.isFailure

theorem counts_empty : Counts empty [] := ⟨rfl, rfl, rfl, rfl, rfl⟩

namespace Counts

variable {t : Tally} {os : List Outcome}

theorem record (h : Counts t os) (o : Outcome) : Counts (t.record o) (os ++ [o]) := by
  obtain ⟨name, line, v⟩ := o
  cases v with
  | pass | fail | skip | error =>
    constructor <;> simp [Tally.record, h.passed, h.failed, h.skipped, h.errors, h.failures, Outcome.isFailure,
      Verdict.isPass, Verdict.isFail, Verdict.isSkip, Verdict.isError]

/-- Recording on, whatever the tally has counted before. -/
theorem foldl_record (h : Counts t os) (rest : List Outcome) : Counts (rest.foldl Tally.record t) (os ++ rest) := by
  induction rest generalizing t os with
  | nil => rwa [List.append_nil]
  | cons o rest ih =>
    rw [List.append_cons]
    exact ih (h.record o)

theorem total (h : Counts t os) : t.total = os.length := by
  rw [Tally.total, h.passed, h.failed, h.skipped, h.errors, Outcome.countP_verdicts]

theorem length_failures (h : Counts t os) : t.failures.length = t.failed + t.errors := by
  rw [h.failures, h.failed, h.errors, ← List.countP_eq_length_filter, Outcome.countP_isFailure]

theorem allPassed_iff (h : Counts t os) : t.allPassed = true ↔ t.failures = [] := by
  rw [← List.length_eq_zero_iff, h.length_failures, Tally.allPassed, Bool.and_eq_true, decide_eq_true_eq,
    decide_eq_true_eq, Nat.add_eq_zero_iff]

theorem eq_of_passes (h : Counts t os) (hPass : ∀ o ∈ os, o.verdict = .pass) : t = ⟨os.length, 0, 0, 0, []⟩ := by
  have hAll : os.countP (·.verdict.isPass) = os.length :=
    List.countP_eq_length.mpr fun o ho => by rw [hPass o ho, Verdict.isPass]
  have hNone {p : Verdict → Bool} (hp : p .pass = false) : os.countP (p ·.verdict) = 0 :=
    List.countP_eq_zero.mpr fun o ho => by rw [hPass o ho, hp]; exact Bool.false_ne_true
  have hFailed := h.failed.trans (hNone rfl)
  have hErrors := h.errors.trans (hNone rfl)
  have hFailures : t.failures = [] := by
    rw [← List.length_eq_zero_iff, h.length_failures, hFailed, hErrors]
  obtain ⟨passed, failed, skipped, errors, failures⟩ := t
  rw [Tally.mk.injEq]
  exact ⟨h.passed.trans hAll, hFailed, h.skipped.trans (hNone rfl), hErrors, hFailures⟩

end Counts
end Tally

theorem Case.counts_runAll (skipped : List Text) (cs : List Case) :
    (runAll skipped cs).Counts (cs.map (outcome skipped)) := by
  have hCounts := Tally.counts_empty.foldl_record (cs.map (outcome skipped))
  rwa [List.nil_append, List.foldl_map] at hCounts

end LessonCheck
