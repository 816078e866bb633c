import EdgeMonitor.Base.Durable
import EdgeMonitor.Base.Machine

/-!
# Database connections that commit by themselves

Library `Base`. A connection in the default transaction control of Python's `sqlite3`: a statement
that changes rows opens a transaction unless one is open, a statement that changes the schema
outside of a transaction is committed at once, and an exception or a cut rolls an open transaction
back. A script of such statements commits a list of database states, and an interrupted run ends
in one of them.
-/

namespace EdgeMonitor.Base
open Program

variable {D ε α β : Type}

namespace Program

variable {W V : Type}

theorem bind_done (p : Program W D V ε α) : p.bind done = p := by
  induction p with
  | done a => rfl
  | read k ih => exact congrArg read (funext₂ ih)
  | assign f k ih => exact congrArg (assign f) ih
  | commit w k ih => exact congrArg (commit w) (funext ih)

theorem bind_bind {γ : Type} (p : Program W D V ε α) (k : α → Program W D V ε β)
    (k' : β → Program W D V ε γ) : (p.bind k).bind k' = p.bind fun a ↦ (k a).bind k' := by
  induction p with
  | done a => rfl
  | read r ih => exact congrArg read (funext₂ ih)
  | assign f p ih => exact congrArg (assign f) ih
  | commit w r ih => exact congrArg (commit w) (funext ih)

instance : LawfulMonad (Program W D V ε) :=
  LawfulMonad.mk' (Program W D V ε) bind_done (fun _ _ ↦ rfl) bind_bind

end Program

/-- A script on a database. The volatile state is the database inside of the open transaction. -/
abbrev Sql (D ε α : Type) := ExceptT ε (Program D D (Option D) ε) α

namespace Sql

/-- Read what the connection sees. -/
def query (f : D → α) : Sql D ε α := ExceptT.mk (.read fun d v ↦ .done (.ok (f (v.getD d))))

/-- Roll the open transaction back and raise. -/
def raise (e : ε) : Sql D ε α := ExceptT.mk (.assign (fun _ ↦ none) (.done (.error e)))

/-- Commit a state. -/
def store (d : D) : Sql D ε Unit :=
  ExceptT.mk (.commit d fun
    | none => .assign (fun _ ↦ none) (.done (.ok ()))
    | some e => .assign (fun _ ↦ none) (.done (.error e)))

/-- Change the database inside of the open transaction. -/
def change (d : D) : Sql D ε Unit := ExceptT.mk (.assign (fun _ ↦ some d) (.done (.ok ())))

/-- A script that depends on the connection. -/
def onConnection (p : D → Option D → Sql D ε α) : Sql D ε α :=
  ExceptT.mk (.read fun d v ↦ (p d v).run)

/-- A statement that changes the schema. -/
def ddl (f : D → Except ε D) : Sql D ε Unit := onConnection fun d v ↦
  match f (v.getD d) with
  | .error e => raise e
  | .ok d' => if v.isSome then change d' else store d'

/-- A statement that changes rows. -/
def dml (f : D → Except ε D) : Sql D ε Unit := onConnection fun d v ↦
  match f (v.getD d) with
  | .error e => raise e
  | .ok d' => change d'

/-- `Connection.commit`. -/
def commit : Sql D ε Unit := onConnection fun _ v ↦
  match v with
  | none => pure ()
  | some d => store d

/-- Statements under a condition. -/
def onlyIf (b : Bool) (p : Sql D ε Unit) : Sql D ε Unit := if b then p else pure ()

/-- What is left of the database after a run, and the result unless the run was cut. -/
structure Result (D ε : Type) where
  database : D
  result : Option (Except ε Unit)

/-- Run a script on its own connection. -/
def runOn (p : Sql D ε Unit) (d : D) (faults : List (Fault ε)) : Result D ε :=
  let o := Program.run (fun w _ ↦ w) p.run d none faults
  ⟨o.durable, o.finished.map (·.2)⟩

/-! ### Plans -/

/-- A script that commits these states in order and ends with a result and no open transaction. -/
def Plans (p : Sql D ε α) (d : D) (v : Option D) (states : List D) (result : Except ε α) : Prop :=
  Follows (fun w _ ↦ w) p.run d v (states.map fun w ↦ (w, fun e ↦ (none, Except.error e)))
    (none, result)

section Plans
variable {p : Sql D ε α} {k : α → Sql D ε β} {d d' : D} {v : Option D} {states : List D}
  {result : Except ε β}

theorem plans_pure {a : β} : Plans (pure a : Sql D ε β) d none [] (.ok a) :=
  (follows_done_iff _).mpr rfl

theorem plans_raise {e : ε} : Plans (raise e : Sql D ε β) d v [] (.error e) := by
  rw [Plans, raise]
  exact (follows_assign_iff _).mpr ((follows_done_iff _).mpr rfl)

/-- A raised exception ends the script. -/
theorem plans_raise_bind {e : ε} : Plans ((raise e : Sql D ε α) >>= k) d v [] (.error e) := by
  change Follows _ (.assign (fun _ ↦ none) (.done (Except.error e))) d v [] _
  exact (follows_assign_iff _).mpr ((follows_done_iff _).mpr rfl)

theorem plans_onlyIf_bind {b : Bool} {p : Sql D ε Unit} {k : Unit → Sql D ε β}
    (htrue : b = true → Plans (p >>= k) d v states result)
    (hfalse : b = false → Plans (k ()) d v states result) :
    Plans (onlyIf b p >>= k) d v states result := by
  cases b with
  | true => exact htrue rfl
  | false => exact hfalse rfl

theorem plans_query_bind {f : D → α} (h : Plans (k (f (v.getD d))) d v states result) :
    Plans (query f >>= k) d v states result := h

/-- A committed state is the next one of the plan. -/
theorem plans_store_bind {k : Unit → Sql D ε β} (h : Plans (k ()) d' none states result) :
    Plans (store d' >>= k) d v (d' :: states) result := by
  rw [Plans, List.map_cons]
  change Follows _ (.commit d' fun e ↦ _) d v _ _
  refine (follows_commit_iff _).mpr ⟨h, ?_⟩
  intro e
  exact (follows_assign_iff _).mpr ((follows_done_iff _).mpr rfl)

theorem plans_change_bind {k : Unit → Sql D ε β} (h : Plans (k ()) d (some d') states result) :
    Plans (change d' >>= k) d v states result := h

theorem plans_onConnection_bind {p : D → Option D → Sql D ε α}
    (h : Plans (p d v >>= k) d v states result) :
    Plans (onConnection p >>= k) d v states result := h

section Statements
variable {f : D → Except ε D} {k : Unit → Sql D ε β} {d₁ : D} {e : ε}

/-- Outside of a transaction a statement on the schema is committed. -/
theorem plans_ddl_bind (hf : f d = .ok d') (h : Plans (k ()) d' none states result) :
    Plans (ddl f >>= k) d none (d' :: states) result := by
  apply plans_onConnection_bind
  simp only [Option.getD_none, hf, Option.isSome_none, Bool.false_eq_true, if_false]
  exact plans_store_bind h

/-- Inside of a transaction it is part of it. -/
theorem plans_ddl_bind_open (hf : f d₁ = .ok d') (h : Plans (k ()) d (some d') states result) :
    Plans (ddl f >>= k) d (some d₁) states result := by
  apply plans_onConnection_bind
  simp only [Option.getD_some, hf, Option.isSome_some, if_true]
  exact plans_change_bind h

theorem plans_ddl_bind_raise (hf : f (v.getD d) = .error e) :
    Plans (ddl f >>= k) d v [] (.error e) := by
  apply plans_onConnection_bind
  simp only [hf]
  exact plans_raise_bind

theorem plans_dml_bind (hf : f (v.getD d) = .ok d')
    (h : Plans (k ()) d (some d') states result) : Plans (dml f >>= k) d v states result := by
  apply plans_onConnection_bind
  simp only [hf]
  exact plans_change_bind h

theorem plans_dml_bind_raise (hf : f (v.getD d) = .error e) :
    Plans (dml f >>= k) d v [] (.error e) := by
  apply plans_onConnection_bind
  simp only [hf]
  exact plans_raise_bind

theorem plans_commit_bind_none (h : Plans (k ()) d none states result) :
    Plans (commit >>= k) d none states result := h

theorem plans_commit_bind (h : Plans (k ()) d' none states result) :
    Plans (commit >>= k) d (some d') (d' :: states) result := by
  apply plans_onConnection_bind
  exact plans_store_bind h

theorem plans_commit : Plans commit d (some d') [d'] (.ok () : Except ε Unit) := by
  rw [← bind_pure commit]
  exact plans_commit_bind plans_pure

end Statements

/-! ### Runs -/

/-- What a run of a plan leaves, and its result unless it is cut. -/
def follow (d : D) (states : List D) (result : Except ε Unit) : List (Fault ε) → Result D ε
  | [] => ⟨states.getLastD d, some result⟩
  | fault :: faults =>
    match states with
    | [] => ⟨d, some result⟩
    | w :: ws =>
      match fault with
      | .applied => follow w ws result faults
      | .failed e => ⟨d, some (.error e)⟩
      | .lostBefore => ⟨d, none⟩
      | .lostAfter => ⟨w, none⟩

/-- Without faults a plan goes on from its first state. -/
theorem follow_cons_nil (d w : D) (ws : List D) (result : Except ε Unit) :
    follow d (w :: ws) result [] = follow w ws result [] := by
  rw [follow, follow, List.getLastD_cons]

/-- A run of a script is one of its plan. -/
theorem Plans.runOn_eq {p : Sql D ε Unit} {d : D} {states : List D} {result : Except ε Unit}
    (h : Plans p d none states result) (faults : List (Fault ε)) :
    p.runOn d faults = follow d states result faults := by
  rw [runOn, h faults]
  clear h
  induction faults generalizing d states with
  | nil =>
    induction states generalizing d with
    | nil => rw [follow]; rfl
    | cons w ws ih =>
      rw [follow_cons_nil, ← ih]
      rfl
  | cons fault faults ih =>
    cases states with
    | nil => rfl
    | cons w ws =>
      cases fault with
      | applied => exact ih
      | failed e => rfl
      | lostBefore => rfl
      | lostAfter => rfl

section Follow
variable {states : List D} {d : D} {result : Except ε Unit} {faults : List (Fault ε)}

/-- A run leaves one of the states of its plan. -/
theorem database_follow_mem (d : D) (states : List D) (result : Except ε Unit)
    (faults : List (Fault ε)) : (follow d states result faults).database ∈ d :: states := by
  induction faults generalizing d states with
  | nil =>
    rw [follow]
    exact List.getLastD_mem_cons ..
  | cons fault faults ih =>
    cases states with
    | nil => exact List.mem_cons_self
    | cons w ws =>
      cases fault with
      | applied => exact List.mem_cons_of_mem d (ih w ws)
      | failed e => exact List.mem_cons_self
      | lostBefore => exact List.mem_cons_self
      | lostAfter => exact List.mem_cons_of_mem d List.mem_cons_self

/-- A run that returns has committed its plan. -/
theorem database_follow_of_ok (h : (follow d states result faults).result = some (.ok ())) :
    (follow d states result faults).database = states.getLastD d := by
  induction faults generalizing d states with
  | nil => rw [follow]
  | cons fault faults ih =>
    cases states with
    | nil => rfl
    | cons w ws =>
      cases fault with
      | applied =>
        rw [List.getLastD_cons]
        exact ih h
      | failed e => cases h
      | lostBefore => cases h
      | lostAfter => cases h

/-- A script that raises does not return. -/
theorem result_follow_error {e : ε} (d : D) (states : List D) (faults : List (Fault ε)) :
    (follow d states (.error e) faults).result ≠ some (.ok ()) := by
  induction faults generalizing d states with
  | nil => simp [follow]
  | cons fault faults ih =>
    cases states with
    | nil => simp [follow]
    | cons w ws =>
      cases fault with
      | applied => exact ih w ws
      | failed e => simp [follow]
      | lostBefore => simp [follow]
      | lostAfter => simp [follow]

end Follow

end Plans

/-- Runs of a script one after another; what a run leaves is the database of the next one. -/
def runs (p : Sql D ε Unit) : Machine D (List (Fault ε)) (Option (Except ε Unit)) where
  step d faults :=
    let r := p.runOn d faults
    (r.database, r.result)

end Sql
end EdgeMonitor.Base
