import Mathlib
/-!
# Programs over durable storage

Library `Base`. A program reads and assigns volatile state and commits writes to durable
storage one at a time. Each commit may be applied, may fail and report an error, or may
be the moment power is lost, just before or just after it takes effect. A program that
commits in a fixed order and gives up at the first failure *follows* a list of steps, and
every outcome of it is then known from how far along that list it came.
-/

namespace EdgeMonitor.Base

universe u

/-- What happens to one commit. -/
inductive Fault (ε : Type u) where
  /-- The write takes effect. -/
  | applied
  /-- The write does not take effect and the error is reported. -/
  | failed (e : ε)
  /-- Power is lost before the write takes effect. -/
  | lostBefore
  /-- Power is lost after the write took effect. -/
  | lostAfter

/-- A program with durable state `D`, writes `W` on it, volatile state `V` and commit
errors `ε`. -/
inductive Program (W D V ε : Type) (α : Type) where
  | done (a : α)
  | read (k : D → V → Program W D V ε α)
  | assign (f : V → V) (k : Program W D V ε α)
  | commit (w : W) (k : Option ε → Program W D V ε α)

/-- A finished program: the writes that took effect, the durable state they led to, and
the volatile state with the result, unless power was lost. -/
structure Outcome (W D V : Type) (α : Type) where
  writes : List W
  durable : D
  finished : Option (V × α)

namespace Program

variable {W D V ε α β : Type}

/-- Sequential composition. -/
def bind (p : Program W D V ε α) (k : α → Program W D V ε β) : Program W D V ε β :=
  match p with
  | done a => k a
  | read r => read fun d v ↦ (r d v).bind k
  | assign f p => assign f (p.bind k)
  | commit w r => commit w fun e ↦ (r e).bind k

instance : Monad (Program W D V ε) where
  pure := done
  bind := bind

/-- Read the durable and the volatile state. -/
def get : Program W D V ε (D × V) := read fun d v ↦ done (d, v)

/-- Change the volatile state. -/
def modify (f : V → V) : Program W D V ε Unit := assign f (done ())

/-- Commit one write; the result is the error reported, if any. -/
def write (w : W) : Program W D V ε (Option ε) := commit w done

variable (apply : W → D → D)

/-- Run a program. Each commit consumes one fault; after the given faults every commit is
applied. -/
def run (p : Program W D V ε α) (d : D) (v : V) (faults : List (Fault ε)) :
    Outcome W D V α :=
  match p with
  | done a => ⟨[], d, some (v, a)⟩
  | read k => (k d v).run d v faults
  | assign f k => k.run d (f v) faults
  | commit w k =>
    match faults with
    | [] =>
      let o := (k none).run (apply w d) v []
      ⟨w :: o.writes, o.durable, o.finished⟩
    | .applied :: faults =>
      let o := (k none).run (apply w d) v faults
      ⟨w :: o.writes, o.durable, o.finished⟩
    | .failed e :: faults => (k (some e)).run d v faults
    | .lostBefore :: _ => ⟨[], d, none⟩
    | .lostAfter :: _ => ⟨[w], apply w d, none⟩

/-- A result wrapped at the end of a program is the program's result, wrapped. -/
theorem run_bind_done (p : Program W D V ε α) (f : α → β) (d : D) (v : V)
    (faults : List (Fault ε)) :
    (p.bind fun a ↦ done (f a)).run apply d v faults =
      ⟨(p.run apply d v faults).writes, (p.run apply d v faults).durable,
        (p.run apply d v faults).finished.map fun r ↦ (r.1, f r.2)⟩ := by
  induction p generalizing d v faults with
  | done a => rfl
  | read k ih => exact ih d v d v faults
  | assign g k ih => exact ih d (g v) faults
  | commit w k ih =>
    cases faults with
    | nil =>
      change Outcome.mk _ _ _ = _
      rw [ih]
      rfl
    | cons fault faults =>
      cases fault with
      | applied =>
        change Outcome.mk _ _ _ = _
        rw [ih]
        rfl
      | failed e => exact ih (some e) d v faults
      | lostBefore => rfl
      | lostAfter => rfl

/-! ### Following a list of steps -/

/-- One step of a straight-line program: a write and how the program ends if it fails. -/
abbrev Step (W V ε α : Type) := W × (ε → V × α)

/-- The outcome of committing the writes in order, giving up at the first failure. -/
def runSteps (last : V × α) (d : D) : List (Step W V ε α) → List (Fault ε) → Outcome W D V α
  | [], _ => ⟨[], d, some last⟩
  | (w, _) :: steps, [] =>
    let o := runSteps last (apply w d) steps []
    ⟨w :: o.writes, o.durable, o.finished⟩
  | (w, _) :: steps, .applied :: faults =>
    let o := runSteps last (apply w d) steps faults
    ⟨w :: o.writes, o.durable, o.finished⟩
  | (_, onError) :: _, .failed e :: _ => ⟨[], d, some (onError e)⟩
  | _ :: _, .lostBefore :: _ => ⟨[], d, none⟩
  | (w, _) :: _, .lostAfter :: _ => ⟨[w], apply w d, none⟩

/-- From this state the program commits exactly these steps and ends with `last`. -/
def Follows (p : Program W D V ε α) (d : D) (v : V) (steps : List (Step W V ε α))
    (last : V × α) : Prop :=
  ∀ faults, p.run apply d v faults = runSteps apply last d steps faults

/-- A program that commits nothing more follows no steps. -/
@[simp] theorem follows_done_iff {a : α} {d : D} {v : V} {last : V × α} :
    Follows apply (done a : Program W D V ε α) d v [] last ↔ (v, a) = last := by
  constructor
  · intro h
    simpa [run, runSteps] using h []
  · rintro rfl faults
    cases faults <;> rfl

@[simp] theorem follows_read_iff {k : D → V → Program W D V ε α} {d : D} {v : V}
    {steps : List (Step W V ε α)} {last : V × α} :
    Follows apply (read k) d v steps last ↔ Follows apply (k d v) d v steps last := Iff.rfl

@[simp] theorem follows_assign_iff {f : V → V} {k : Program W D V ε α} {d : D} {v : V}
    {steps : List (Step W V ε α)} {last : V × α} :
    Follows apply (assign f k) d v steps last ↔ Follows apply k d (f v) steps last := Iff.rfl

/-- A commit is followed by the steps after it, and its failure ends the program. -/
@[simp] theorem follows_commit_iff {w : W} {k : Option ε → Program W D V ε α} {d : D} {v : V}
    {onError : ε → V × α} {steps : List (Step W V ε α)} {last : V × α} :
    Follows apply (commit w k) d v ((w, onError) :: steps) last ↔
      Follows apply (k none) (apply w d) v steps last ∧
        ∀ e, Follows apply (k (some e)) d v [] (onError e) := by
  constructor
  · intro h
    constructor
    · intro faults
      have hf := h (.applied :: faults)
      simp only [run, runSteps, Outcome.mk.injEq, List.cons.injEq, true_and] at hf
      cases ho : run apply (k none) (apply w d) v faults
      rw [ho] at hf
      obtain ⟨hw, hd, hr⟩ := hf
      subst hw hd hr
      rfl
    · intro e faults
      have hf := h (.failed e :: faults)
      rw [run, runSteps] at hf
      rw [hf, runSteps]
  · rintro ⟨hnext, herror⟩ faults
    cases faults with
    | nil => simp only [run, runSteps, hnext []]
    | cons f faults =>
      cases f with
      | applied => simp only [run, runSteps, hnext faults]
      | failed e => rw [run, runSteps, herror e faults, runSteps]
      | lostBefore => rfl
      | lostAfter => rfl

/-- Wrapping the results of a list of steps wraps the result of its run. -/
theorem runSteps_map (f : α → β) (last : V × α) (d : D) (steps : List (Step W V ε α))
    (faults : List (Fault ε)) :
    runSteps apply (last.1, f last.2) d
        (steps.map fun s ↦ (s.1, fun e ↦ ((s.2 e).1, f (s.2 e).2))) faults =
      ⟨(runSteps apply last d steps faults).writes, (runSteps apply last d steps faults).durable,
        (runSteps apply last d steps faults).finished.map fun r ↦ (r.1, f r.2)⟩ := by
  induction steps generalizing d faults with
  | nil => cases faults <;> rfl
  | cons s steps ih =>
    cases faults with
    | nil => simp only [List.map_cons, runSteps, ih]
    | cons fault faults =>
      cases fault with
      | applied => simp only [List.map_cons, runSteps, ih]
      | failed e => rfl
      | lostBefore => rfl
      | lostAfter => rfl

/-- A program whose result is wrapped follows the same writes. -/
theorem Follows.map {p : Program W D V ε α} {d : D} {v : V} {steps : List (Step W V ε α)}
    {last : V × α} (h : Follows apply p d v steps last) (f : α → β) :
    Follows apply (p.bind fun a ↦ done (f a)) d v
      (steps.map fun s ↦ (s.1, fun e ↦ ((s.2 e).1, f (s.2 e).2))) (last.1, f last.2) := by
  intro faults
  rw [run_bind_done, h faults, runSteps_map]

/-! ### Outcomes of a list of steps -/

/-- The durable state after a list of writes. -/
def applyAll (d : D) (ws : List W) : D := ws.foldl (fun d w ↦ apply w d) d

@[simp] theorem applyAll_nil (d : D) : applyAll apply d ([] : List W) = d := rfl

@[simp] theorem applyAll_cons (d : D) (w : W) (ws : List W) :
    applyAll apply d (w :: ws) = applyAll apply (apply w d) ws := rfl

/-- How an outcome of a list of steps came about: the first `n` writes took effect, and
then all were done, the next one failed, or power was lost. -/
inductive Reached (last : V × α) (d : D) (steps : List (Step W V ε α)) :
    Outcome W D V α → Prop
  | completed : Reached last d steps
      ⟨steps.map (·.1), applyAll apply d (steps.map (·.1)), some last⟩
  | failed (n : Nat) (hn : n < steps.length) (e : ε) : Reached last d steps
      ⟨(steps.map (·.1)).take n, applyAll apply d ((steps.map (·.1)).take n),
        some ((steps[n]).2 e)⟩
  | lost (n : Nat) (hn : n ≤ steps.length) : Reached last d steps
      ⟨(steps.map (·.1)).take n, applyAll apply d ((steps.map (·.1)).take n), none⟩

private theorem Reached.cons {last : V × α} {d : D} {w : W} {onError : ε → V × α}
    {steps : List (Step W V ε α)} {o : Outcome W D V α}
    (h : Reached apply last (apply w d) steps o) :
    Reached apply last d ((w, onError) :: steps)
      ⟨w :: o.writes, o.durable, o.finished⟩ := by
  cases h with
  | completed => exact .completed
  | failed n hn e => exact .failed (n + 1) (by simpa using hn) e
  | lost n hn => exact .lost (n + 1) (by simpa using hn)

/-- Every outcome of a list of steps is reached in one of the three ways. -/
theorem reached_runSteps (last : V × α) (d : D) (steps : List (Step W V ε α))
    (faults : List (Fault ε)) :
    Reached apply last d steps (runSteps apply last d steps faults) := by
  induction steps generalizing d faults with
  | nil => exact .completed
  | cons s steps ih =>
    obtain ⟨w, onError⟩ := s
    cases faults with
    | nil => exact (ih (apply w d) []).cons apply
    | cons f faults =>
      cases f with
      | applied => exact (ih (apply w d) faults).cons apply
      | failed e => exact .failed 0 (by simp) e
      | lostBefore => exact .lost 0 (by simp)
      | lostAfter => exact .lost 1 (by simp)

/-- Every outcome of a program that follows a list of steps. -/
theorem Follows.reached {p : Program W D V ε α} {d : D} {v : V}
    {steps : List (Step W V ε α)} {last : V × α} (h : Follows apply p d v steps last)
    (faults : List (Fault ε)) : Reached apply last d steps (p.run apply d v faults) :=
  h faults ▸ reached_runSteps apply last d steps faults

/-- What every outcome of a list of steps has in common: a prefix of the writes took
effect, and a reply is the final one or that of a step whose write did not. -/
theorem Reached.inversion {last : V × α} {d : D} {steps : List (Step W V ε α)}
    {o : Outcome W D V α} (h : Reached apply last d steps o) :
    o.writes <+: steps.map (·.1) ∧ o.durable = applyAll apply d o.writes ∧
      (o.finished = none ∨ (o.writes = steps.map (·.1) ∧ o.finished = some last) ∨
        ∃ s ∈ steps, ∃ e, o.finished = some (s.2 e) ∧ o.writes.length < steps.length) := by
  cases h with
  | completed => exact ⟨List.prefix_refl _, rfl, .inr (.inl ⟨rfl, rfl⟩)⟩
  | failed n hn e =>
    refine ⟨List.take_prefix _ _, rfl, .inr (.inr ⟨steps[n], List.getElem_mem hn, e, rfl, ?_⟩)⟩
    rw [List.length_take, List.length_map]
    omega
  | lost n hn => exact ⟨List.take_prefix _ _, rfl, .inl rfl⟩

/-- When no commit fails and power stays on, every write takes effect. -/
theorem runSteps_of_applied (last : V × α) (d : D) (steps : List (Step W V ε α))
    (faults : List (Fault ε)) (h : ∀ f ∈ faults, f = .applied) :
    runSteps apply last d steps faults =
      ⟨steps.map (·.1), applyAll apply d (steps.map (·.1)), some last⟩ := by
  induction steps generalizing d faults with
  | nil => rfl
  | cons s steps ih =>
    obtain ⟨w, onError⟩ := s
    cases faults with
    | nil => rw [runSteps, ih _ [] (by simp)]; rfl
    | cons f faults =>
      obtain rfl := h f (by simp)
      rw [runSteps, ih _ faults fun g hg ↦ h g (by simp [hg])]
      rfl

/-- Unless a commit fails, a list of steps that replies took effect as a whole. -/
theorem runSteps_of_not_failed {last x : V × α} {d : D} {steps : List (Step W V ε α)}
    {faults : List (Fault ε)} (h : ∀ e, .failed e ∉ faults)
    (hx : (runSteps apply last d steps faults).finished = some x) :
    (runSteps apply last d steps faults).writes = steps.map (·.1) ∧ x = last := by
  induction steps generalizing d faults with
  | nil => exact ⟨rfl, (Option.some.inj hx).symm⟩
  | cons s steps ih =>
    cases faults with
    | nil =>
      obtain ⟨hw, hlast⟩ := ih (d := apply s.1 d) h hx
      exact ⟨congrArg (s.1 :: ·) hw, hlast⟩
    | cons fault faults =>
      cases fault with
      | applied =>
        obtain ⟨hw, hlast⟩ := ih (fun e he ↦ h e (List.mem_cons_of_mem _ he)) hx
        exact ⟨congrArg (s.1 :: ·) hw, hlast⟩
      | failed e => exact absurd List.mem_cons_self (h e)
      | lostBefore => cases hx
      | lostAfter => cases hx

/-! ### Prefixes of short plans -/

theorem prefix_one {l : List W} {a : W} (h : l <+: [a]) : l = [] ∨ l = [a] := by
  rcases List.prefix_cons_iff.mp h with rfl | ⟨t, rfl, ht⟩
  · exact .inl rfl
  · exact .inr (by rw [List.prefix_nil.mp ht])

theorem prefix_two {l : List W} {a b : W} (h : l <+: [a, b]) :
    l = [] ∨ l = [a] ∨ l = [a, b] := by
  rcases List.prefix_cons_iff.mp h with rfl | ⟨t, rfl, ht⟩
  · exact .inl rfl
  · rcases prefix_one ht with rfl | rfl <;> simp

theorem prefix_three {l : List W} {a b c : W} (h : l <+: [a, b, c]) :
    l = [] ∨ l = [a] ∨ l = [a, b] ∨ l = [a, b, c] := by
  rcases List.prefix_cons_iff.mp h with rfl | ⟨t, rfl, ht⟩
  · exact .inl rfl
  · rcases prefix_two ht with rfl | rfl | rfl <;> simp

/-- Whether the first commit of a call takes effect. -/
def takesEffect : List (Fault ε) → Bool
  | [] => true
  | .applied :: _ => true
  | .lostAfter :: _ => true
  | _ => false

/-- A plan with steps writes something exactly if its first commit takes effect. -/
theorem runSteps_writes_ne_nil_iff (last : V × α) (d : D) (s : Step W V ε α)
    (steps : List (Step W V ε α)) (faults : List (Fault ε)) :
    (runSteps apply last d (s :: steps) faults).writes ≠ [] ↔ takesEffect faults = true := by
  cases faults with
  | nil => simp [runSteps, takesEffect]
  | cons f fs => cases f <;> simp [runSteps, takesEffect]

/-! ### Write trails -/

/-- The writes that took effect, each with the state before and after it. -/
def trail (d : D) : List W → List (D × W × D)
  | [] => []
  | w :: ws => (d, w, apply w d) :: trail (apply w d) ws

/-- A trail's entries are its writes, each applied to the state before it. -/
theorem mem_trail {d : D} {ws : List W} {t : D × W × D} (h : t ∈ trail apply d ws) :
    t.2.1 ∈ ws ∧ t.2.2 = apply t.2.1 t.1 := by
  induction ws generalizing d with
  | nil => cases h
  | cons w ws ih =>
    rcases List.mem_cons.mp h with rfl | h
    · exact ⟨List.mem_cons_self, rfl⟩
    · obtain ⟨hw, ha⟩ := ih h
      exact ⟨List.mem_cons_of_mem _ hw, ha⟩

end Program
end EdgeMonitor.Base
