import Mathlib

/-!
# Lockout after failed attempts

Library `Base`. A limiter counts failed attempts, forgets them at a success, and at the last one
it allows refuses all further attempts for a while. The clock may go on between the check of the
lock, an attempt and the update after it. However the attempts are timed, more failures in a row
than are allowed at once take at least the time of one lockout.
-/

namespace EdgeMonitor.Base
namespace Lockout

/-- How many failures lock the limiter, and for how long. -/
structure Limit where
  maximum : Nat
  duration : Nat

/-- The counter, the end of the last lockout and the clock. -/
structure Limiter where
  failures : Nat
  lockedUntil : Int
  now : Int

/-- An attempt that was let through, with its time. -/
structure Attempt where
  time : Int
  succeeded : Bool
  deriving DecidableEq

/-- What a request does: it is no attempt, or it is one and fails, fails and locks, or succeeds. -/
inductive Step (limit : Limit) (s : Limiter) : Option Attempt → Limiter → Prop
  | idle (now : Int) (hnow : s.now ≤ now) : Step limit s none { s with now }
  | failed (time now : Int) (hlock : s.lockedUntil ≤ time) (hstart : s.now ≤ time)
      (hend : time ≤ now) (h : s.failures + 1 < limit.maximum) :
      Step limit s (some ⟨time, false⟩) { s with failures := s.failures + 1, now }
  | locked (time now : Int) (hlock : s.lockedUntil ≤ time) (hstart : s.now ≤ time)
      (hend : time ≤ now) (h : limit.maximum ≤ s.failures + 1) :
      Step limit s (some ⟨time, false⟩) ⟨0, now + limit.duration, now⟩
  | succeeded (time now : Int) (hlock : s.lockedUntil ≤ time) (hstart : s.now ≤ time)
      (hend : time ≤ now) : Step limit s (some ⟨time, true⟩) { s with failures := 0, now }

/-- Requests one after the other, with the attempts among them. -/
inductive Run (limit : Limit) : Limiter → List Attempt → Limiter → Prop
  | done (s : Limiter) : Run limit s [] s
  | step {s s' t : Limiter} {attempt : Option Attempt} {attempts : List Attempt}
      (h : Step limit s attempt s') (hrest : Run limit s' attempts t) :
      Run limit s (attempt.toList ++ attempts) t

variable {limit : Limit} {s s' t : Limiter} {attempts : List Attempt}

/-! ### One request -/

/-- The counter stays below the limit. -/
theorem Step.failures_lt {attempt : Option Attempt} (h : Step limit s attempt s')
    (hs : s.failures < limit.maximum) : s'.failures < limit.maximum := by
  cases h with
  | idle now hnow => exact hs
  | failed time now hlock hstart hend h => exact h
  | locked time now hlock hstart hend h => exact Nat.zero_lt_of_lt hs
  | succeeded time now hlock hstart hend => exact Nat.zero_lt_of_lt hs

/-- A lock is only replaced by a later one. -/
theorem Step.lockedUntil_le {attempt : Option Attempt} (h : Step limit s attempt s') :
    s.lockedUntil ≤ s'.lockedUntil := by
  cases h with
  | idle now hnow => exact Int.le_refl _
  | failed time now hlock hstart hend h => exact Int.le_refl _
  | locked time now hlock hstart hend h =>
    change s.lockedUntil ≤ now + limit.duration
    omega
  | succeeded time now hlock hstart hend => exact Int.le_refl _

theorem Step.now_le {attempt : Option Attempt} (h : Step limit s attempt s') : s.now ≤ s'.now := by
  cases h with
  | idle now hnow => exact hnow
  | failed time now hlock hstart hend h => exact Int.le_trans hstart hend
  | locked time now hlock hstart hend h => exact Int.le_trans hstart hend
  | succeeded time now hlock hstart hend => exact Int.le_trans hstart hend

/-- An attempt is made after the lock, between the clock before and after the request. -/
theorem Step.time_le {attempt : Attempt} (h : Step limit s (some attempt) s') :
    s.lockedUntil ≤ attempt.time ∧ s.now ≤ attempt.time ∧ attempt.time ≤ s'.now := by
  cases h with
  | failed time now hlock hstart hend h => exact ⟨hlock, hstart, hend⟩
  | locked time now hlock hstart hend h => exact ⟨hlock, hstart, hend⟩
  | succeeded time now hlock hstart hend => exact ⟨hlock, hstart, hend⟩

/-- A failed attempt is counted, or it is the last one and locks. -/
theorem Step.of_failed {attempt : Attempt} (h : Step limit s (some attempt) s')
    (hfailed : attempt.succeeded = false) :
    s'.failures = s.failures + 1 ∨
      limit.maximum ≤ s.failures + 1 ∧ attempt.time + limit.duration ≤ s'.lockedUntil := by
  cases h with
  | failed time now hlock hstart hend h => exact Or.inl rfl
  | locked time now hlock hstart hend h =>
    right
    refine ⟨h, ?_⟩
    change time + limit.duration ≤ now + limit.duration
    omega
  | succeeded time now hlock hstart hend => cases hfailed

/-! ### Runs -/

theorem Run.failures_lt (h : Run limit s attempts t) (hs : s.failures < limit.maximum) :
    t.failures < limit.maximum := by
  induction h with
  | done s => exact hs
  | step hstep hrest ih => exact ih (hstep.failures_lt hs)

/-- No attempt of a run comes before the lock or the clock at its beginning. -/
theorem Run.le_time (h : Run limit s attempts t) :
    ∀ attempt ∈ attempts, s.lockedUntil ≤ attempt.time ∧ s.now ≤ attempt.time := by
  induction h with
  | done s => exact fun _ hmem ↦ absurd hmem List.not_mem_nil
  | @step s s' t attempt attempts hstep hrest ih =>
    intro a ha
    cases List.mem_append.mp ha with
    | inl ha =>
      have hsame : attempt = some a := Option.mem_toList.mp ha
      subst hsame
      exact ⟨hstep.time_le.1, hstep.time_le.2.1⟩
    | inr ha =>
      obtain ⟨hlock, hnow⟩ := ih a ha
      exact ⟨Int.le_trans hstep.lockedUntil_le hlock, Int.le_trans hstep.now_le hnow⟩

/-- A run can be cut between any two of its attempts. -/
theorem Run.split {before after : List Attempt} (h : Run limit s (before ++ after) t) :
    ∃ middle, Run limit s before middle ∧ Run limit middle after t := by
  generalize hall : before ++ after = attempts at h
  induction h generalizing before with
  | done s =>
    obtain ⟨rfl, rfl⟩ := List.append_eq_nil_iff.mp hall
    exact ⟨s, .done s, .done s⟩
  | @step s s' t attempt attempts hstep hrest ih =>
    cases attempt with
    | none =>
      obtain ⟨middle, hbefore, hafter⟩ := ih hall
      exact ⟨middle, .step hstep hbefore, hafter⟩
    | some a =>
      cases before with
      | nil =>
        rw [List.nil_append] at hall
        subst hall
        exact ⟨s, .done s, .step hstep hrest⟩
      | cons b before =>
        obtain ⟨hab, htail⟩ := List.cons.inj hall
        subst hab
        obtain ⟨middle, hbefore, hafter⟩ := ih htail
        exact ⟨middle, .step hstep hbefore, hafter⟩

/-- After enough failures in a row, the next attempt waits for a lockout. -/
theorem Run.lockout_le {first last : Attempt} {failed after : List Attempt}
    (h : Run limit s (first :: failed ++ after) t)
    (hfailed : ∀ attempt ∈ first :: failed, attempt.succeeded = false)
    (hcount : limit.maximum ≤ s.failures + failed.length) (hlt : s.failures < limit.maximum)
    (hlast : failed.getLast? = some last) : first.time + limit.duration ≤ last.time := by
  generalize hall : first :: failed ++ after = attempts at h
  induction h generalizing first failed with
  | done s => cases hall
  | @step s s' t attempt attempts hstep hrest ih =>
    cases attempt with
    | none =>
      cases hstep with
      | idle now hnow => exact ih hfailed hcount hlt hlast hall
    | some a =>
      obtain ⟨hfirst, htail⟩ := List.cons.inj hall
      subst hfirst
      have hrestEq : failed ++ after = attempts := htail
      have hmem : last ∈ failed := List.mem_of_getLast? hlast
      cases hstep.of_failed (hfailed first List.mem_cons_self) with
      | inl hcounted =>
        -- the counter carries over to the rest of the failures
        cases failed with
        | nil => cases hlast
        | cons second failed =>
          have hrestFailed : ∀ attempt ∈ second :: failed, attempt.succeeded = false := by
            intro a ha
            exact hfailed a (List.mem_cons_of_mem _ ha)
          have hsecond : first.time ≤ second.time := by
            have hnow := (hrest.le_time second (by rw [← hrestEq]; simp)).2
            exact Int.le_trans hstep.time_le.2.2 hnow
          have hlt' := hstep.failures_lt hlt
          cases failed with
          | nil =>
            rw [List.length_singleton] at hcount
            omega
          | cons third failed =>
            have hlast' : (third :: failed).getLast? = some last := by
              rwa [List.getLast?_cons_cons] at hlast
            have hle := ih hrestFailed (by rw [List.length_cons] at hcount; omega) hlt' hlast'
              hrestEq
            omega
      | inr hlocked =>
        have hle := (hrest.le_time last (by
          rw [← hrestEq]
          exact List.mem_append_left _ hmem)).1
        omega

end Lockout
end EdgeMonitor.Base
