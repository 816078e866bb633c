import EdgeMonitor.Backend.RuleChanges

/-!
# Stored rules

Library `Backend`. A patch is validated together with the rule as it was read, and only the
columns that it sets are written, in a later transaction. Two patches that are valid alone may
combine to a rule that is not.
-/

namespace EdgeMonitor.Backend
open EdgeMonitor.Base
open AlertRepository

/-- A request as `AlertRuleCreate` or `AlertRulePatch` accepts it. -/
def RuleRequest.Accepted : RuleRequest → Prop
  | create request _ => ∃ raw : AlertRuleDefinition, raw.modelValidate = true ∧
      request = raw.normalize
  | update _ request _ => ∃ raw : AlertRulePatch, raw.modelValidate = true ∧
      request = raw.normalize
  | archive _ _ => True

/-- A request that passed the validation of its body. -/
abbrev AcceptedRequest := { r : RuleRequest // r.Accepted }

/-- The collector and any number of accepted requests on one database. -/
def ruleSystem : Machine (System Database PyError Sample AcceptedRequest)
    (SystemEvent Sample AcceptedRequest) (Option PyError) :=
  System.machine AlertEngine.evaluate fun r ↦ r.val.session

/-- Every stored rule satisfies `AlertRuleDefinition`. -/
def ValidRules (db : Database) : Prop :=
  ∀ rule ∈ db.alertRules.rows, rule.definition.modelValidate = true

/-- A patch that was valid for the rule as it was read has a threshold in range for the rule as
it is. -/
def WithinLimits (r : AcceptedRequest) (seen : List Database) (db : Database) : Prop :=
  match r.val with
  | .update ruleId request _ =>
    ∀ read ∈ seen, ∀ current ∈ fetchRule ruleId read,
      (AlertService.merged request current).modelValidate = true →
      ∀ rule ∈ db.alertRules.find ruleId,
        thresholdInRange (request.metric.getD rule.metric)
          (request.threshold.getD rule.threshold) = true
  | _ => True

instance decidableWithinLimits (seen : List Database) (db : Database) :
    (r : AcceptedRequest) → Decidable (WithinLimits r seen db)
  | ⟨.create .., _⟩ => .isTrue trivial
  | ⟨.update ruleId request _, _⟩ =>
    inferInstanceAs (Decidable (∀ read ∈ seen, ∀ current ∈ fetchRule ruleId read,
      (AlertService.merged request current).modelValidate = true →
      ∀ rule ∈ db.alertRules.find ruleId,
        thresholdInRange (request.metric.getD rule.metric)
          (request.threshold.getD rule.threshold) = true))
  | ⟨.archive .., _⟩ => .isTrue trivial

/-! ### Validity of definitions -/

theorem validName_strip {name : Text} (h : validName name = true) :
    validName name.strip = true := by
  simp only [validName, Bool.and_eq_true, decide_eq_true_eq] at h ⊢
  obtain ⟨⟨-, hle⟩, hne⟩ := h
  have hsome : ∃ c ∈ name, Text.isSpace c = false := by
    by_contra hnone
    apply hne
    apply Text.stripWith_eq_nil_iff.mpr
    intro c hc
    by_contra hspace
    exact hnone ⟨c, hc, Bool.eq_false_iff.mpr hspace⟩
  obtain ⟨c, hc, hspace⟩ := hsome
  have hmem : c ∈ name.strip := Text.mem_stripWith hc hspace
  refine ⟨⟨List.length_pos_of_mem hmem, ?_⟩, ?_⟩
  · exact (Text.stripWith_sublist _ _).length_le.trans hle
  · exact List.ne_nil_of_mem (Text.mem_stripWith hmem hspace)

/-- The definition that is validated and then stripped is valid. -/
theorem modelValidate_normalize {raw : AlertRuleDefinition} (h : raw.modelValidate = true) :
    raw.normalize.modelValidate = true := by
  simp only [AlertRuleDefinition.modelValidate, AlertRuleDefinition.normalize,
    Bool.and_eq_true] at h ⊢
  obtain ⟨⟨⟨⟨hname, hdevice⟩, hduration⟩, hhysteresis⟩, hthreshold⟩ := h
  exact ⟨⟨⟨⟨validName_strip hname, hdevice⟩, hduration⟩, hhysteresis⟩, hthreshold⟩

/-- A column of a patched rule is the patch's or the rule's own. -/
theorem getD_of_both {α : Type} {p : α → Prop} {change : Option α} {a b : α}
    (hread : p (change.getD a)) (hstored : p b) : p (change.getD b) := by
  cases change with
  | none => exact hstored
  | some c => exact hread

/-- Only the range of the threshold depends on more than one column. -/
theorem patched_valid {rule : AlertRule} {current : RuleRow} {request : AlertRulePatch}
    {now : Instant} (hrule : rule.definition.modelValidate = true)
    (hmerged : (AlertService.merged request current).modelValidate = true)
    (hrange : thresholdInRange (request.metric.getD rule.metric)
      (request.threshold.getD rule.threshold) = true) :
    (patchRule request now rule).definition.modelValidate = true := by
  simp only [AlertRuleDefinition.modelValidate, AlertService.merged, Bool.and_eq_true] at *
  obtain ⟨⟨⟨⟨hname, -⟩, hduration⟩, hhysteresis⟩, -⟩ := hmerged
  obtain ⟨⟨⟨⟨hname', hdevice⟩, hduration'⟩, hhysteresis'⟩, -⟩ := hrule
  refine ⟨⟨⟨⟨?_, hdevice⟩, ?_⟩, ?_⟩, hrange⟩
  · exact getD_of_both (p := (validName · = true)) hname hname'
  · exact getD_of_both (p := fun d : Int ↦ decide (0 ≤ d) = true) hduration hduration'
  · exact getD_of_both (p := fun h : ℚ ↦ decide (0 ≤ h) = true) hhysteresis hhysteresis'

/-! ### Transactions -/

/-- A transaction within the limits keeps the rules valid. -/
theorem ValidRules.commits {r : AcceptedRequest} {seen : List Database} {db db' : Database}
    (hdb : ValidRules db) (hlimits : WithinLimits r seen db) (h : r.val.Commits seen db db') :
    ValidRules db' := by
  obtain ⟨r, haccepted⟩ := r
  cases h with
  | create hinsert hstate =>
    obtain ⟨raw, hraw, hrequest⟩ := haccepted
    intro rule hrule
    rw [(insertRuleState_eq_ok hstate).2.2.1, (insertRule_eq_ok hinsert).2.1] at hrule
    rcases List.mem_append.mp hrule with hold | hnew
    · exact hdb rule hold
    · rw [List.mem_singleton.mp hnew]
      subst hrequest
      exact modelValidate_normalize hraw
  | @update ruleId request now read _ patched _ current hread hcurrent hopen hvalid hpatched
      hreset =>
    have hrules : db'.alertRules = patched.alertRules := by
      split at hreset
      · rw [hreset]
      · exact hreset.alertRules
    intro rule hrule
    rw [hrules] at hrule
    obtain rfl | ⟨hrows, -, -⟩ := updateRule_eq_ok hpatched
    · exact hdb rule hrule
    · rw [hrows] at hrule
      obtain ⟨old, hold, rfl⟩ := List.mem_map.mp hrule
      split
      next hid =>
        have hkey : old.id = ruleId := by simpa using hid
        have hfound : db.alertRules.find ruleId = some old :=
          (Table.find_eq_some_iff _ _ _).mpr ⟨hold, hkey⟩
        apply patched_valid (hdb old hold) hvalid
        exact hlimits read hread current hcurrent hvalid old hfound
      next => exact hdb old hold
  | @archive ruleId now read _ archivedDb _ current rowcount hread hcurrent hopen harchived
      hreset =>
    have hrules : db'.alertRules = archivedDb.alertRules := by
      split at hreset
      · rw [hreset]
      · exact hreset.alertRules
    intro rule hrule
    rw [hrules] at hrule
    cases harchived
    obtain ⟨old, hold, rfl⟩ := List.mem_map.mp hrule
    split
    · exact hdb old hold
    · exact hdb old hold

/-! ### Whole runs -/

/-- The rules of a database that the alert engine has worked on are those before. -/
theorem maintains_validRules (sample : Sample) :
    (Block.select (fetchEnabledRulesForDevice sample.deviceId) >>=
      AlertEngine.evaluateRules sample).Maintains ValidRules := by
  apply (AlertEngine.keeps_evaluate sample).maintains
  intro db db' hsame hdb
  have hrules : db'.alertRules = db.alertRules :=
    congrArg (fun m ↦ m.2.2.2) hsame
  intro rule hrule
  rw [hrules] at hrule
  exact hdb rule hrule

/-- What the collector and the requests rely on: patches write within the limits. -/
def validRules : System.Rules AlertEngine.evaluate fun r : AcceptedRequest ↦ r.val.session where
  inv := ValidRules
  rely _ _ := True
  worker _ _ _ := True
  client := WithinLimits
  allowed _ := True
  rely_refl _ _ := trivial
  work_safe sample := by
    apply Session.safe_withConnection
    apply (maintains_validRules sample).safe
    · exact fun _ _ _ h ↦ h.1
    · exact fun _ _ h ↦ h
    · exact fun _ _ _ _ ↦ trivial
  serve_safe r := by
    apply r.val.safe
    intro seen db db' hdb hcommits
    exact ⟨hdb.1.commits hdb.2 hcommits, fun _ _ ↦ trivial⟩

/-- When every patch writes a threshold that is in range for the rule as it then is, every
stored rule stays valid. -/
theorem stored_rules_valid (db : Database) (events : List (SystemEvent Sample AcceptedRequest))
    (hdb : ValidRules db)
    (hlimits : ruleSystem.Along (System.Meets (fun _ _ _ ↦ True) WithinLimits) ⟨db, none, []⟩
      events) :
    ValidRules (ruleSystem.run ⟨db, none, []⟩ events).database := by
  have hsound : System.Sound validRules (ruleSystem.run ⟨db, none, []⟩ events) :=
    ruleSystem.invariant_along (fun _ _ ↦ System.sound_step)
      (System.sound_idle validRules hdb) hlimits
  exact hsound.inv

/-- A rule for temperatures above 50. -/
def hotRule : AlertRuleDefinition :=
  ⟨Text.ofString "hot", Text.ofString "pump-1", .temperature, .greaterThan, 50, 0, 0, .warning,
    true⟩

/-- A patch that makes it a rule for humidity. -/
def toHumidity : AlertRulePatch := { AlertRulePatch.empty with metric := some .humidity }

/-- A patch that makes it a rule for temperatures above -10. -/
def toFrost : AlertRulePatch := { AlertRulePatch.empty with threshold := some (-10) }

/-- The request of a body that is accepted. -/
def accepted (body : AlertRulePatch) (h : body.modelValidate = true) (now : Instant) :
    AcceptedRequest := ⟨.update 1 body.normalize now, body, h, rfl⟩

/-- The rule is created, and two patches for it arrive. -/
def patchedTwice : List (SystemEvent Sample AcceptedRequest) :=
  [.request ⟨.create hotRule.normalize 0, hotRule, by decide +kernel, rfl⟩, .serve 0, .serve 0,
    .serve 0, .request (accepted toHumidity (by decide +kernel) 1),
    .request (accepted toFrost (by decide +kernel) 2)]

/-- One patch after the other: the second is rejected. -/
theorem stored_rules_valid_sample :
    ValidRules (ruleSystem.run ⟨withoutRules sampleRegistry, none, []⟩
      (patchedTwice ++ [.serve 1, .serve 1, .serve 1, .serve 2, .serve 2, .serve 2])).database := by
  apply stored_rules_valid
  · intro rule hrule
    cases hrule
  · decide +kernel

/-- Both patches read the rule before either of them writes. -/
def bothReadFirst : List (SystemEvent Sample AcceptedRequest) :=
  patchedTwice ++ [.serve 1, .serve 1, .serve 2, .serve 2, .serve 1, .serve 2]

/-- The threshold of the stored rule is no humidity. -/
theorem stored_rules_valid_fails :
    (¬ ∀ (db : Database) (events : List (SystemEvent Sample AcceptedRequest)), ValidRules db →
      ValidRules (ruleSystem.run ⟨db, none, []⟩ events).database) ∧
    (ruleSystem.run ⟨withoutRules sampleRegistry, none, []⟩
      bothReadFirst).database.alertRules.rows.map (fun rule ↦ (rule.metric, rule.threshold)) =
        [(.humidity, -10)] := by
  have hrows : (ruleSystem.run ⟨withoutRules sampleRegistry, none, []⟩
      bothReadFirst).database.alertRules.rows.map (fun rule ↦ (rule.metric, rule.threshold)) =
        [(.humidity, -10)] := by decide +kernel
  refine ⟨fun h ↦ ?_, hrows⟩
  have hstart : ValidRules (withoutRules sampleRegistry) := by
    intro rule hrule
    cases hrule
  have hmem : (AlertMetric.humidity, (-10 : ℚ)) ∈ _ := hrows ▸ List.mem_singleton_self _
  obtain ⟨rule, hrule, hfields⟩ := List.mem_map.mp hmem
  have hdefinition := h _ bothReadFirst hstart rule hrule
  simp only [Prod.mk.injEq] at hfields
  simp only [AlertRuleDefinition.modelValidate, AlertRule.definition, hfields.1, hfields.2,
    Bool.and_eq_true] at hdefinition
  exact absurd hdefinition.2 (by decide)

end EdgeMonitor.Backend
