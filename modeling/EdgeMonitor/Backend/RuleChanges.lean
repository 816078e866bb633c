import EdgeMonitor.Backend.AlertIntervals

/-!
# What requests commit

Library `Backend`. A request that changes a rule reads it, decides, and writes in one transaction
later. Every such transaction is one of a few, and what it writes depends on the rule as it was
read.
-/

namespace EdgeMonitor.Backend
open EdgeMonitor.Base
open AlertRepository

/-! ### Transactions of requests -/

/-- The state of a rule is reset and its open event resolved. -/
def ResetsRule (ruleId : Nat) (now : Instant) (reason : ResolutionReason) (db db' : Database) :
    Prop :=
  ∃ changed, resolveEvents ruleId now reason db = .ok changed ∧
    db' = withState (freshState ruleId) changed

section

variable {ruleId : Nat} {now : Instant} {reason : ResolutionReason} {db db' : Database}

theorem ResetsRule.alertRules (h : ResetsRule ruleId now reason db db') :
    db'.alertRules = db.alertRules := by
  obtain ⟨changed, hchanged, rfl⟩ := h
  cases hchanged
  rfl

theorem ResetsRule.find (h : ResetsRule ruleId now reason db db') (k : Nat) :
    db'.alertRuleStates.find k =
      if k = ruleId then (db.alertRuleStates.find k).map fun _ ↦ freshState ruleId
      else db.alertRuleStates.find k := by
  obtain ⟨changed, hchanged, rfl⟩ := h
  cases hchanged
  exact find_withState (freshState ruleId) _ k

theorem ResetsRule.active (h : ResetsRule ruleId now reason db db') (k : Nat) :
    db'.alertEvents.active k = if k = ruleId then none else db.alertEvents.active k := by
  obtain ⟨changed, hchanged, rfl⟩ := h
  cases hchanged
  rw [alertEvents_withState]
  dsimp only
  rw [AlertEvents.active_update]
  cases hactive : db.alertEvents.active k with
  | none => simp
  | some e =>
    obtain ⟨-, hid, hstatus⟩ := (AlertEvents.active_eq_some_iff _ _ _).mp hactive
    by_cases hk : k = ruleId
    · have hactiveFor : e.activeFor ruleId = true :=
        (e.activeFor_iff ruleId).mpr ⟨hid.trans hk, hstatus⟩
      rw [if_pos hk, Option.map_some, if_pos hactiveFor]
      rfl
    · have hother : ¬e.activeFor ruleId = true := by
        intro h
        exact hk (hid.symm.trans ((e.activeFor_iff ruleId).mp h).1)
      rw [if_neg hk, Option.map_some, if_neg hother]
      simp [hstatus]

end

/-- A transaction of a request that has seen the databases `seen`. -/
inductive RuleRequest.Commits (seen : List Database) :
    RuleRequest → Database → Database → Prop
  | create {request : AlertRuleDefinition} {now : Instant} {db inserted db' : Database}
      {ruleId : Nat} (hinsert : insertRule request now db = .ok (inserted, ruleId))
      (hstate : insertRuleState ruleId inserted = .ok db') :
      Commits seen (.create request now) db db'
  | update {ruleId : Nat} {request : AlertRulePatch} {now : Instant}
      {read db patched db' : Database} {current : RuleRow} (hread : read ∈ seen)
      (hcurrent : fetchRule ruleId read = some current) (hopen : current.archivedAt = none)
      (hvalid : (AlertService.merged request current).modelValidate = true)
      (hpatched : AlertRepository.updateRule ruleId request now db = .ok patched)
      (hreset : match AlertService.resolutionReason request current with
        | none => db' = patched
        | some reason => ResetsRule ruleId now reason patched db') :
      Commits seen (.update ruleId request now) db db'
  | archive {ruleId : Nat} {now : Instant} {read db archived db' : Database} {current : RuleRow}
      {rowcount : Nat} (hread : read ∈ seen) (hcurrent : fetchRule ruleId read = some current)
      (hopen : current.archivedAt = none)
      (harchived : archiveRuleRow ruleId now db = .ok (archived, rowcount))
      (hreset : if rowcount = 0 then db' = archived
        else ResetsRule ruleId now .ruleArchived archived db') :
      Commits seen (.archive ruleId now) db db'

section

variable {A : List Database → Database → Prop} {P : Database → Database → Prop}

/-- A session that first reads a rule. -/
theorem safe_getRule {α : Type} {ruleId : Nat} {f : RuleRow → Session Database PyError α}
    {seen : List Database}
    (h : ∀ read current, A seen read → fetchRule ruleId read = some current →
      (f current).Safe A P (fun _ ↦ True) (read :: seen)) :
    (AlertService.getRule ruleId >>= f).Safe A P (fun _ ↦ True) seen := by
  intro read hread
  cases hcurrent : fetchRule ruleId read with
  | none =>
    simp only [hcurrent]
    trivial
  | some current =>
    simp only [hcurrent]
    exact h read current hread hcurrent

/-- A query at the end changes nothing. -/
theorem safe_select {α : Type} (f : Database → α) (seen : List Database) :
    (Session.withConnection (Block.select f) : Session Database PyError α).Safe A P (fun _ ↦ True)
      seen := by
  intro d _
  trivial

theorem safe_onIntegrityError {α : Type} {s : Session Database PyError α} {statusCode : Nat}
    {detail : String} {seen : List Database} (h : s.Safe A P (fun _ ↦ True) seen) :
    (AlertService.onIntegrityError s statusCode detail).Safe A P (fun _ ↦ True) seen := by
  apply h.tryCatch
  intro e seen
  split <;> trivial

/-- A transaction that begins with a statement, and what it commits. -/
theorem safe_transaction {α : Type} {b : Block Database PyError α} {seen : List Database}
    (hb : b.Starts) (h : ∀ d r, A seen d → b.eval d = .ok r → P d r.2) :
    (Session.withConnection b).Safe A P (fun _ ↦ True) seen := by
  apply Session.safe_withConnection
  apply hb.safe
  intro d hd
  cases hr : b.eval d with
  | ok r => exact ⟨h d r hd hr, fun e he ↦ trivial⟩
  | error e => exact fun e he ↦ trivial

theorem safe_create {request : AlertRuleDefinition} {now : Instant} {seen : List Database}
    (h : ∀ d d', A seen d → (RuleRequest.create request now).Commits seen d d' → P d d') :
    (AlertRepository.createRule request now).Safe A P (fun _ ↦ True) seen := by
  rw [AlertRepository.createRule]
  apply Session.Safe.bind
  · refine safe_transaction trivial ?_
    intro d r hd hr
    apply h d r.2 hd
    rw [Block.statement_bind, Block.eval] at hr
    cases hinsert : insertRule request now d with
    | error e =>
      rw [hinsert] at hr
      cases hr
    | ok inserted =>
      obtain ⟨inserted, ruleId⟩ := inserted
      rw [hinsert] at hr
      dsimp only [Block.done_bind] at hr
      rw [Block.eval_execute_bind] at hr
      cases hstate : insertRuleState ruleId inserted with
      | error e =>
        rw [hstate] at hr
        cases hr
      | ok created =>
        rw [hstate] at hr
        cases hr
        exact .create hinsert hstate
  · intro ruleId seen
    exact safe_select (fetchRule ruleId) seen

theorem safe_update {ruleId : Nat} {request : AlertRulePatch} {now : Instant} {read : Database}
    {current : RuleRow} {seen : List Database} (hread : read ∈ seen)
    (hcurrent : fetchRule ruleId read = some current) (hopen : current.archivedAt = none)
    (hvalid : (AlertService.merged request current).modelValidate = true)
    (h : ∀ d d', A seen d → (RuleRequest.update ruleId request now).Commits seen d d' → P d d') :
    (updateRuleAndRuntime ruleId request now (AlertService.resetRuntime request current)
      (AlertService.resolutionReason request current)).Safe A P (fun _ ↦ True) seen := by
  rw [updateRuleAndRuntime, resetRuntime_eq]
  apply Session.Safe.bind
  · refine safe_transaction trivial ?_
    intro d r hd hr
    apply h d r.2 hd
    rw [Block.eval_execute_bind] at hr
    cases hpatched : AlertRepository.updateRule ruleId request now d with
    | error e =>
      rw [hpatched] at hr
      cases hr
    | ok patched =>
      rw [hpatched] at hr
      refine .update hread hcurrent hopen hvalid hpatched ?_
      cases hreason : AlertService.resolutionReason request current with
      | none =>
        rw [hreason] at hr
        cases hr
        rfl
      | some reason =>
        rw [hreason] at hr
        cases hr
        exact ⟨_, rfl, rfl⟩
  · intro _ seen
    exact safe_select (fetchRule ruleId) seen

theorem safe_archive {ruleId : Nat} {now : Instant} {read : Database} {current : RuleRow}
    {seen : List Database} (hread : read ∈ seen)
    (hcurrent : fetchRule ruleId read = some current) (hopen : current.archivedAt = none)
    (h : ∀ d d', A seen d → (RuleRequest.archive ruleId now).Commits seen d d' → P d d') :
    (AlertRepository.archiveRule ruleId now).Safe A P (fun _ ↦ True) seen := by
  rw [AlertRepository.archiveRule]
  refine safe_transaction trivial ?_
  intro d r hd hr
  apply h d r.2 hd
  obtain ⟨archived, rowcount, harchived⟩ : ∃ archived rowcount,
      archiveRuleRow ruleId now d = .ok (archived, rowcount) := ⟨_, _, rfl⟩
  rw [Block.statement_bind, Block.eval, harchived] at hr
  dsimp only [Block.done_bind] at hr
  refine .archive hread hcurrent hopen harchived ?_
  by_cases hcount : rowcount = 0
  · rw [if_pos hcount] at hr ⊢
    cases hr
    rfl
  · rw [if_neg hcount] at hr ⊢
    cases hr
    exact ⟨_, rfl, rfl⟩

/-- A request changes the database by its transactions only. -/
theorem RuleRequest.safe (r : RuleRequest)
    (h : ∀ seen d d', A seen d → r.Commits seen d d' → P d d') :
    r.session.Safe A P (fun _ ↦ True) [] := by
  have hunit {α : Type} {s : Session Database PyError α} {seen : List Database}
      (hs : s.Safe A P (fun _ ↦ True) seen) :
      (do let _ ← s; Session.done () : Session Database PyError Unit).Safe A P (fun _ ↦ True)
        seen := hs.bind fun _ _ ↦ trivial
  cases r with
  | create request now =>
    apply hunit
    rw [AlertService.createRule]
    apply Session.safe_query
    intro read _
    split
    · trivial
    · exact safe_onIntegrityError (safe_create fun d d' ↦ h _ d d')
  | update ruleId request now =>
    apply hunit
    rw [AlertService.updateRule]
    apply safe_getRule
    intro read current _ hcurrent
    split
    · trivial
    next harchived =>
      split
      · trivial
      · split
        · trivial
        next hvalid =>
          apply safe_onIntegrityError
          apply safe_update List.mem_cons_self hcurrent
          · simpa using harchived
          · simpa using hvalid
          · exact fun d d' ↦ h _ d d'
  | archive ruleId now =>
    rw [RuleRequest.session, AlertService.archiveRule]
    apply safe_getRule
    intro read current _ hcurrent
    split
    · trivial
    next harchived =>
      apply safe_archive List.mem_cons_self hcurrent
      · simpa using harchived
      · exact fun d d' ↦ h _ d d'

end

end EdgeMonitor.Backend
