import EdgeMonitor.Base.Machine

/-!
# Replacing a shared value by an edited copy

Library `Base`. Clients that share a value copy it, edit the copy, take the value away and put
the copy in its place. Nothing excludes two clients, so a copy may be older than the value that it
replaces. The history counts the placements, and each value is an edit of an earlier one.
-/

namespace EdgeMonitor.Base

universe u v w

/-- How far a client is: its result, its copy, and the value that it has taken away. -/
inductive Attempt (α : Type u) (β : Type v) where
  | idle
  | copied (copy : α)
  | edited (result : β) (copy : α)
  | taken (result : β) (copy previous : α)
  | placed (result : β) (previous : α)
  | returned (result : β)
  | raised
  deriving DecidableEq

/-- The values that clients accept, and their edits, which may fail. -/
structure Editors (ι : Type w) (α : Type u) (β : Type v) where
  accepts : α → Bool
  edit : ι → α → Option (β × α)

/-- The shared value, none while a client has taken it away. -/
structure Replacement (ι : Type w) (α : Type u) (β : Type v) where
  value : Option α
  attempts : ι → Attempt α β

/-- No client has begun. -/
def Replacement.start {ι : Type w} {α : Type u} {β : Type v} (value : α) : Replacement ι α β :=
  ⟨some value, fun _ ↦ .idle⟩

/-- How often the value has been replaced: by whom, and after how many replacements the client had
copied it. -/
structure Placements (ι : Type w) where
  placed : List (ι × Nat)
  copies : ι → Nat

/-- Nothing has been replaced. -/
def Placements.start {ι : Type w} : Placements ι := ⟨[], fun _ ↦ 0⟩

namespace Attempt
variable {α : Type u} {β : Type v}

/-- The client has taken the value away. -/
def IsTaken (attempt : Attempt α β) : Prop :=
  ∃ result copy previous, attempt = .taken result copy previous

/-- The client has replaced the value. -/
def HasPlaced (attempt : Attempt α β) : Prop :=
  (∃ result previous, attempt = .placed result previous) ∨ ∃ result, attempt = .returned result

@[simp] theorem not_isTaken_idle : ¬ (idle : Attempt α β).IsTaken := by simp [IsTaken]

@[simp] theorem not_isTaken_copied (copy : α) : ¬ (copied copy : Attempt α β).IsTaken := by
  simp [IsTaken]

@[simp] theorem not_isTaken_edited (result : β) (copy : α) : ¬ (edited result copy).IsTaken := by
  simp [IsTaken]

@[simp] theorem isTaken_taken (result : β) (copy previous : α) :
    (taken result copy previous).IsTaken := ⟨_, _, _, rfl⟩

@[simp] theorem not_isTaken_placed (result : β) (previous : α) :
    ¬ (placed result previous).IsTaken := by simp [IsTaken]

@[simp] theorem not_isTaken_returned (result : β) : ¬ (returned result : Attempt α β).IsTaken := by
  simp [IsTaken]

@[simp] theorem not_isTaken_raised : ¬ (raised : Attempt α β).IsTaken := by simp [IsTaken]

@[simp] theorem hasPlaced_placed (result : β) (previous : α) :
    (placed result previous).HasPlaced := .inl ⟨_, _, rfl⟩

@[simp] theorem hasPlaced_returned (result : β) : (returned result : Attempt α β).HasPlaced :=
  .inr ⟨_, rfl⟩

end Attempt

namespace Editors
variable {ι : Type w} {α : Type u} {β : Type v} (e : Editors ι α β)

/-- The next step of a client on the shared value. -/
def advance (client : ι) : Option α → Attempt α β → Option α × Attempt α β
  | none, .idle => (none, .raised)
  | some value, .idle => (some value, if e.accepts value then .copied value else .raised)
  | value, .copied copy =>
    (value, match e.edit client copy with
      | some (result, copy') => .edited result copy'
      | none => .raised)
  | none, .edited _ _ => (none, .raised)
  | some value, .edited result copy => (none, .taken result copy value)
  | none, .taken result copy previous => (some copy, .placed result previous)
  | some value, .taken _ _ _ => (some value, .raised)
  | value, .placed result _ => (value, .returned result)
  | value, .returned result => (value, .returned result)
  | value, .raised => (value, .raised)

/-- The history after a step. -/
def note [DecidableEq ι] (h : Placements ι) (client : ι) : Attempt α β → Attempt α β → Placements ι
  | .idle, .copied _ => { h with copies := Function.update h.copies client h.placed.length }
  | .taken _ _ _, .placed _ _ => { h with placed := h.placed ++ [(client, h.copies client)] }
  | _, _ => h

/-- At each step one client advances. -/
def machine [DecidableEq ι] : Machine (Replacement ι α β) ι Unit where
  step s client :=
    let (value, attempt) := e.advance client s.value (s.attempts client)
    (⟨value, Function.update s.attempts client attempt⟩, ())

/-- The clients with the history of the replacements. -/
def history [DecidableEq ι] : Machine (Replacement ι α β × Placements ι) ι Unit :=
  e.machine.observed fun h s client r ↦ note h client (s.attempts client) (r.1.attempts client)

/-- Each placement is an edit of the version that its client had copied. -/
inductive Placed (value : α) : List (ι × Nat) → List α → Prop
  | start : Placed value [] [value]
  | place {placed : List (ι × Nat)} {versions : List α} {client : ι} {copied : Nat}
      {before after : α} {result : β} (h : Placed value placed versions)
      (hbefore : versions[copied]? = some before)
      (hedit : e.edit client before = some (result, after)) :
      Placed value (placed ++ [(client, copied)]) (versions ++ [after])

/-- The shared value is the last version, and each copy is a version or an edit of one. -/
structure Versioned (value : α) (s : Replacement ι α β) (h : Placements ι) (versions : List α) :
    Prop where
  placed : e.Placed value h.placed versions
  current : (s.value = versions.getLast? ∧ ∀ client, ¬ (s.attempts client).IsTaken) ∨
    (s.value = none ∧ ∃ client, (s.attempts client).IsTaken ∧
      ∀ other, (s.attempts other).IsTaken → other = client)
  copied : ∀ client copy, s.attempts client = .copied copy →
    versions[h.copies client]? = some copy
  edited : ∀ client result copy, (s.attempts client = .edited result copy ∨
    ∃ previous, s.attempts client = .taken result copy previous) →
    ∃ before, versions[h.copies client]? = some before ∧
      e.edit client before = some (result, copy)
  once : (h.placed.map (·.1)).Nodup
  done : ∀ client, client ∈ h.placed.map (·.1) ↔ (s.attempts client).HasPlaced

variable {e}

theorem Placed.length {value : α} {placed : List (ι × Nat)} {versions : List α}
    (h : e.Placed value placed versions) : versions.length = placed.length + 1 := by
  induction h with
  | start => rfl
  | place _ _ _ ih => simp [ih]

section Step
variable {value : α} {s : Replacement ι α β} {h : Placements ι} {versions : List α} {client : ι}

theorem versioned_start (value : α) : e.Versioned value (.start value) .start [value] where
  placed := .start
  current := .inl ⟨rfl, fun _ ↦ Attempt.not_isTaken_idle⟩
  copied := by simp [Replacement.start]
  edited := by simp [Replacement.start]
  once := List.nodup_nil
  done := by simp [Replacement.start, Placements.start, Attempt.HasPlaced]

variable [DecidableEq ι]

/-- A client that neither takes the value nor has it leaves it as it is. -/
theorem Versioned.current_of_not_taken (hv : e.Versioned value s h versions)
    {attempt : Attempt α β} (hbefore : ¬ (s.attempts client).IsTaken) (hafter : ¬ attempt.IsTaken) :
    (s.value = versions.getLast? ∧
        ∀ other, ¬ (Function.update s.attempts client attempt other).IsTaken) ∨
      (s.value = none ∧ ∃ taker, (Function.update s.attempts client attempt taker).IsTaken ∧
        ∀ other, (Function.update s.attempts client attempt other).IsTaken → other = taker) := by
  have hsame (other : ι) : (Function.update s.attempts client attempt other).IsTaken ↔
      (s.attempts other).IsTaken := by
    by_cases heq : other = client
    · rw [heq, Function.update_self]
      exact iff_of_false hafter hbefore
    · rw [Function.update_of_ne heq]
  simp only [hsame]
  exact hv.current

/-- What a step that places nothing has to show. -/
theorem Versioned.set (hv : e.Versioned value s h versions) {attempt : Attempt α β}
    {value' : Option α} {copies : ι → Nat}
    (hcurrent : (value' = versions.getLast? ∧
        ∀ other, ¬ (Function.update s.attempts client attempt other).IsTaken) ∨
      (value' = none ∧ ∃ taker, (Function.update s.attempts client attempt taker).IsTaken ∧
        ∀ other, (Function.update s.attempts client attempt other).IsTaken → other = taker))
    (hcopied : ∀ copy, attempt = .copied copy → versions[copies client]? = some copy)
    (hedited : ∀ result copy, (attempt = .edited result copy ∨
      ∃ previous, attempt = .taken result copy previous) →
      ∃ before, versions[copies client]? = some before ∧
        e.edit client before = some (result, copy))
    (hdone : attempt.HasPlaced ↔ (s.attempts client).HasPlaced)
    (hcopies : ∀ other, other ≠ client → copies other = h.copies other) :
    e.Versioned value ⟨value', Function.update s.attempts client attempt⟩ ⟨h.placed, copies⟩
      versions where
  placed := hv.placed
  current := hcurrent
  copied := by
    intro other copy hother
    by_cases heq : other = client
    · subst heq
      exact hcopied copy (by simpa using hother)
    · change versions[copies other]? = some copy
      rw [hcopies other heq]
      exact hv.copied other copy (by simpa [heq] using hother)
  edited := by
    intro other result copy hother
    by_cases heq : other = client
    · subst heq
      exact hedited result copy (by simpa using hother)
    · change ∃ before, versions[copies other]? = some before ∧ _
      rw [hcopies other heq]
      exact hv.edited other result copy (by simpa [heq] using hother)
  once := hv.once
  done := by
    intro other
    by_cases heq : other = client
    · subst heq
      simpa [hdone] using hv.done other
    · simpa [heq] using hv.done other

/-- The client that has taken the value puts its copy in its place. -/
theorem Versioned.place (hv : e.Versioned value s h versions) {result : β} {copy previous : α}
    (hclient : s.attempts client = .taken result copy previous) :
    e.Versioned value ⟨some copy, Function.update s.attempts client (.placed result previous)⟩
      ⟨h.placed ++ [(client, h.copies client)], h.copies⟩ (versions ++ [copy]) := by
  obtain ⟨before, hbefore, hedit⟩ := hv.edited client result copy (.inr ⟨previous, hclient⟩)
  have halone (other : ι) (hother : other ≠ client) : ¬ (s.attempts other).IsTaken := by
    rcases hv.current with ⟨-, hnone⟩ | ⟨-, taker, -, honly⟩
    · exact hnone other
    · intro htaken
      have hclient' := honly client ⟨result, copy, previous, hclient⟩
      exact hother ((honly other htaken).trans hclient'.symm)
  have hkept {i : Nat} {version : α} (hi : versions[i]? = some version) :
      (versions ++ [copy])[i]? = some version := by
    rw [List.getElem?_append_left (List.getElem?_eq_some_iff.mp hi).1, hi]
  exact
    { placed := .place hv.placed hbefore hedit
      current := by
        refine .inl ⟨by simp, fun other ↦ ?_⟩
        by_cases heq : other = client
        · simp [heq]
        · simpa [heq] using halone other heq
      copied := by
        intro other copy' hother
        by_cases heq : other = client
        · simp [heq] at hother
        · exact hkept (hv.copied other copy' (by simpa [heq] using hother))
      edited := by
        intro other result' copy' hother
        by_cases heq : other = client
        · simp [heq] at hother
        · obtain ⟨before', hbefore', hedit'⟩ :=
            hv.edited other result' copy' (by simpa [heq] using hother)
          exact ⟨before', hkept hbefore', hedit'⟩
      once := by
        rw [List.map_append, List.nodup_append]
        refine ⟨hv.once, List.nodup_singleton _, fun other hother client' hclient' heq ↦ ?_⟩
        obtain rfl : client' = client := by simpa using hclient'
        have hplaced := (hv.done client').mp (heq ▸ hother)
        simp [hclient, Attempt.HasPlaced] at hplaced
      done := by
        intro other
        by_cases heq : other = client
        · simp [heq]
        · simpa [heq] using hv.done other }

/-- Each step leaves the shared value the last version. -/
theorem Versioned.step (hv : e.Versioned value s h versions) (client : ι) :
    ∃ versions', e.Versioned value (e.history.step (s, h) client).1.1
      (e.history.step (s, h) client).1.2 versions' := by
  simp only [history, Machine.observed, machine, Function.update_self]
  have hraised {attempt : Attempt α β} (hattempt : s.attempts client = attempt)
      (htaken : ¬ attempt.IsTaken) (hplaced : ¬ attempt.HasPlaced) :
      e.Versioned value ⟨s.value, Function.update s.attempts client .raised⟩ h versions := by
    subst hattempt
    exact hv.set (hv.current_of_not_taken htaken (by simp)) (by simp) (by simp)
      (iff_of_false (by simp [Attempt.HasPlaced]) hplaced) fun _ _ ↦ rfl
  have hreturned (result : β) (htaken : ¬ (s.attempts client).IsTaken)
      (hplaced : (s.attempts client).HasPlaced) :
      e.Versioned value ⟨s.value, Function.update s.attempts client (.returned result)⟩ h versions :=
    hv.set (hv.current_of_not_taken htaken (by simp)) (by simp) (by simp)
      (iff_of_true (by simp) hplaced) fun _ _ ↦ rfl
  cases hattempt : s.attempts client with
  | idle =>
    cases hvalue : s.value with
    | none =>
      refine ⟨versions, ?_⟩
      simpa [advance, note, hvalue] using
        hraised hattempt (by simp) (by simp [Attempt.HasPlaced])
    | some current =>
      simp only [advance]
      split
      next =>
        have hlast : versions[h.placed.length]? = some current := by
          rcases hv.current with ⟨hcurrent, -⟩ | ⟨hnone, -⟩
          · rw [hvalue, List.getLast?_eq_getElem?, hv.placed.length] at hcurrent
            exact hcurrent.symm
          · simp [hvalue] at hnone
        refine ⟨versions, hv.set ?_ ?_ (by simp)
          (iff_of_false (by simp [Attempt.HasPlaced]) (by simp [hattempt, Attempt.HasPlaced]))
          fun other hother ↦ Function.update_of_ne hother ..⟩
        · rw [← hvalue]
          exact hv.current_of_not_taken (by simp [hattempt]) (by simp)
        · intro copy hcopy
          rw [Function.update_self, ← Attempt.copied.inj hcopy]
          exact hlast
      next =>
        refine ⟨versions, ?_⟩
        simpa [note, hvalue] using hraised hattempt (by simp) (by simp [Attempt.HasPlaced])
  | copied copy =>
    simp only [advance]
    cases hedit : e.edit client copy with
    | none =>
      refine ⟨versions, ?_⟩
      simpa [note] using hraised hattempt (by simp) (by simp [Attempt.HasPlaced])
    | some edited =>
      obtain ⟨result, copy'⟩ := edited
      refine ⟨versions, hv.set (hv.current_of_not_taken (by simp [hattempt]) (by simp)) (by simp) ?_
        (iff_of_false (by simp [Attempt.HasPlaced]) (by simp [hattempt, Attempt.HasPlaced]))
        fun _ _ ↦ rfl⟩
      rintro result' copy'' (hsame | ⟨_, hsame⟩)
      · obtain ⟨rfl, rfl⟩ := Attempt.edited.inj hsame
        exact ⟨copy, hv.copied client copy hattempt, hedit⟩
      · cases hsame
  | edited result copy =>
    cases hvalue : s.value with
    | none =>
      refine ⟨versions, ?_⟩
      simpa [advance, note, hvalue] using
        hraised hattempt (by simp) (by simp [Attempt.HasPlaced])
    | some previous =>
      simp only [advance]
      refine ⟨versions, hv.set (.inr ⟨rfl, client, by simp, fun other hother ↦ ?_⟩) (by simp) ?_
        (iff_of_false (by simp [Attempt.HasPlaced]) (by simp [hattempt, Attempt.HasPlaced]))
        fun _ _ ↦ rfl⟩
      · by_contra heq
        rw [Function.update_of_ne heq] at hother
        rcases hv.current with ⟨-, hnone⟩ | ⟨hnone, -⟩
        · exact hnone other hother
        · simp [hvalue] at hnone
      · rintro result' copy' (hsame | ⟨_, hsame⟩)
        · cases hsame
        · obtain ⟨rfl, rfl, -⟩ := Attempt.taken.inj hsame
          exact hv.edited client result copy (.inl hattempt)
  | taken result copy previous =>
    rcases hv.current with ⟨-, hnone⟩ | ⟨hnone, -⟩
    · exact absurd ⟨_, _, _, hattempt⟩ (hnone client)
    · rw [hnone]
      exact ⟨_, hv.place hattempt⟩
  | placed result previous =>
    refine ⟨versions, ?_⟩
    simpa [advance, note] using hreturned result (by simp [hattempt]) (by simp [hattempt])
  | returned result =>
    refine ⟨versions, ?_⟩
    simpa [advance, note] using hreturned result (by simp [hattempt]) (by simp [hattempt])
  | raised =>
    refine ⟨versions, ?_⟩
    simpa [advance, note] using hraised hattempt (by simp) (by simp [Attempt.HasPlaced])

end Step

/-- After every run the shared value is the last version. -/
theorem versioned_run [DecidableEq ι] (value : α) (turns : List ι) :
    ∃ versions, e.Versioned value (e.history.run (.start value, .start) turns).1
      (e.history.run (.start value, .start) turns).2 versions := by
  have hstep : ∀ (x : Replacement ι α β × Placements ι) (client : ι),
      (∃ versions, e.Versioned value x.1 x.2 versions) →
      ∃ versions, e.Versioned value (e.history.step x client).1.1 (e.history.step x client).1.2
        versions := fun x client ⟨versions, hv⟩ ↦ hv.step client
  exact e.history.invariant hstep ⟨_, versioned_start value⟩ turns

theorem Placed.of_nil {value : α} {versions : List α} (h : e.Placed value [] versions) :
    versions = [value] := by
  generalize hplaced : ([] : List (ι × Nat)) = placed at h
  cases h with
  | start => rfl
  | place => simp at hplaced

theorem Placed.of_concat {value : α} (placed : List (ι × Nat)) {client : ι} {copied : Nat}
    {versions : List α} (h : e.Placed value (placed ++ [(client, copied)]) versions) :
    ∃ before result after versions', e.Placed value placed versions' ∧
      versions'[copied]? = some before ∧ e.edit client before = some (result, after) ∧
      versions = versions' ++ [after] := by
  generalize hplaced : placed ++ [(client, copied)] = placed' at h
  cases h with
  | start => simp at hplaced
  | place h hbefore hedit =>
    obtain ⟨rfl, hsame⟩ := List.append_inj' hplaced rfl
    obtain ⟨rfl, rfl⟩ := Prod.mk.inj (List.singleton_inj.mp hsame)
    exact ⟨_, _, _, _, h, hbefore, hedit, rfl⟩

/-- Two placements: the second edits what the first has made, or what the first has edited. -/
theorem Placed.two {value : α} {a b : ι} {i j : Nat} {versions : List α}
    (h : e.Placed value [(a, i), (b, j)] versions) :
    ∃ result middle result' final, i = 0 ∧ e.edit a value = some (result, middle) ∧
      versions.getLast? = some final ∧
      (j = 1 ∧ e.edit b middle = some (result', final) ∨
        j = 0 ∧ e.edit b value = some (result', final)) := by
  obtain ⟨before', result', final, _, hfirst, hbefore', hedit', rfl⟩ :=
    Placed.of_concat [(a, i)] h
  obtain ⟨before, result, middle, _, hstart, hbefore, hedit, rfl⟩ :=
    Placed.of_concat [] hfirst
  obtain rfl := hstart.of_nil
  obtain ⟨rfl, rfl⟩ : i = 0 ∧ value = before := by
    cases i with
    | zero => exact ⟨rfl, by simpa using hbefore⟩
    | succ i => simp at hbefore
  refine ⟨result, middle, result', final, rfl, hedit, by simp, ?_⟩
  match j, hbefore' with
  | 0, hbefore' =>
    obtain rfl : value = before' := by simpa using hbefore'
    exact .inr ⟨rfl, hedit'⟩
  | 1, hbefore' =>
    obtain rfl : middle = before' := by simpa using hbefore'
    exact .inl ⟨rfl, hedit'⟩
  | j + 2, hbefore' => simp at hbefore'

/-- A client that is alone replaces the value by its edit. -/
theorem run_alone [DecidableEq ι] {value : α} (client : ι) (haccepts : e.accepts value = true) :
    ((e.machine.run (.start value) (List.replicate 5 client)).value,
      (e.machine.run (.start value) (List.replicate 5 client)).attempts client) =
    match e.edit client value with
    | some (result, after) => (some after, .returned result)
    | none => (some value, .raised) := by
  simp only [List.replicate, Machine.run_cons, Machine.run_nil, machine, Replacement.start,
    Function.update_self, advance, haccepts, if_true]
  cases e.edit client value with
  | none => rfl
  | some edited => rfl

end Editors

end EdgeMonitor.Base
