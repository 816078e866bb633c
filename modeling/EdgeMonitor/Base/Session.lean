import EdgeMonitor.Base.Machine

/-!
# Sessions over a shared database

Library `Base`. A block is one connection's work: queries and statements that end together.
A query before the first statement reads the last committed database and holds nothing; from
the first statement on the block runs alone, and its changes become durable together when it
ends, or not at all when it raises. A session is a sequence of blocks; other clients may
change the database between any two of its steps.
-/

namespace EdgeMonitor.Base

universe u v w

/-- The work of one connection on a database `D`, with exceptions `ε`. A statement returns
its row count or the row id that it assigned. -/
inductive Block (D : Type u) (ε : Type v) (α : Type w) where
  | done (a : α)
  | raise (e : ε)
  | query (k : D → Block D ε α)
  | statement (f : D → Except ε (D × Nat)) (k : Nat → Block D ε α)

namespace Block

variable {D : Type u} {ε : Type v} {α β γ : Type w}

/-- Run one block after another on the same connection. -/
def bind : Block D ε α → (α → Block D ε β) → Block D ε β
  | done a, f => f a
  | raise e, _ => raise e
  | query k, f => query fun d ↦ (k d).bind f
  | statement g k, f => statement g fun n ↦ (k n).bind f

instance : Monad (Block D ε) where
  pure := done
  bind := bind

/-- Read something of the database. -/
def select (f : D → α) : Block D ε α := query fun d ↦ done (f d)

/-- Execute a statement for its effect. -/
def execute (f : D → Except ε D) : Block D ε PUnit :=
  statement (fun d ↦ (f d).map (·, 0)) fun _ ↦ done ⟨⟩

/-- What the rest of the block does when it runs alone. -/
def eval : Block D ε α → D → Except ε (α × D)
  | done a, d => .ok (a, d)
  | raise e, _ => .error e
  | query k, d => (k d).eval d
  | statement f k, d =>
    match f d with
    | .ok (d', n) => (k n).eval d'
    | .error e => .error e

@[simp] theorem pure_eq (a : α) : (pure a : Block D ε α) = done a := rfl

@[simp] theorem done_bind (a : α) (f : α → Block D ε β) : (done a >>= f) = f a := rfl

@[simp] theorem raise_bind (e : ε) (f : α → Block D ε β) : (raise e >>= f) = raise e := rfl

@[simp] theorem query_bind (k : D → Block D ε α) (f : α → Block D ε β) :
    (query k >>= f) = query fun d ↦ k d >>= f := rfl

@[simp] theorem statement_bind (g : D → Except ε (D × Nat)) (k : Nat → Block D ε α)
    (f : α → Block D ε β) : (statement g k >>= f) = statement g fun n ↦ k n >>= f := rfl

@[simp] theorem eval_done (a : α) (d : D) : (done a : Block D ε α).eval d = .ok (a, d) := rfl

@[simp] theorem eval_raise (e : ε) (d : D) : (raise e : Block D ε α).eval d = .error e := rfl

@[simp] theorem eval_query (k : D → Block D ε α) (d : D) : (query k).eval d = (k d).eval d := rfl

@[simp] theorem eval_select (f : D → α) (d : D) :
    (select f : Block D ε α).eval d = .ok (f d, d) := rfl

/-- Alone, a sequence of blocks is the composition of what they do. -/
theorem eval_bind (b : Block D ε α) (f : α → Block D ε β) (d : D) :
    (b >>= f).eval d = (b.eval d).bind fun r ↦ (f r.1).eval r.2 := by
  induction b generalizing d with
  | done a => rfl
  | raise e => rfl
  | query k ih => exact ih d d
  | statement g k ih =>
    simp only [statement_bind, eval]
    cases g d with
    | error e => rfl
    | ok r => exact ih r.2 r.1

/-- A statement for its effect, and what follows it. -/
theorem eval_execute_bind (f : D → Except ε D) (k : PUnit → Block D ε β) (d : D) :
    (execute f >>= k).eval d = (f d).bind fun d' ↦ (k ⟨⟩).eval d' := by
  simp only [execute, statement_bind, done_bind, eval]
  cases f d <;> rfl

/-- What the statements of a block leave as it is, whatever its queries return. -/
def Keeps {V : Type*} (view : D → V) : Block D ε α → Prop
  | done _ => True
  | raise _ => True
  | query k => ∀ d, Keeps view (k d)
  | statement f k => (∀ d r, f d = .ok r → view r.1 = view d) ∧ ∀ n, Keeps view (k n)

section
variable {V : Type*} {view : D → V}

theorem Keeps.bind {b : Block D ε α} {f : α → Block D ε β} (hb : b.Keeps view)
    (hf : ∀ a, (f a).Keeps view) : (b >>= f).Keeps view := by
  induction b with
  | done a => exact hf a
  | raise e => trivial
  | query k ih => exact fun d ↦ ih d (hb d)
  | statement g k ih => exact ⟨hb.1, fun n ↦ ih n (hb.2 n)⟩

theorem keeps_select (f : D → α) : (select f : Block D ε α).Keeps view := fun _ ↦ trivial

theorem keeps_execute {f : D → Except ε D} (h : ∀ d d', f d = .ok d' → view d' = view d) :
    (execute f).Keeps view := by
  refine ⟨fun d r hr ↦ ?_, fun _ ↦ trivial⟩
  dsimp only at hr
  cases hd : f d with
  | error e =>
    rw [hd] at hr
    cases hr
  | ok d' =>
    rw [hd] at hr
    cases hr
    exact h d d' hd

theorem keeps_forM {γ : Type*} {f : γ → Block D ε PUnit} (h : ∀ c, (f c).Keeps view)
    (cs : List γ) : (cs.forM f).Keeps view := by
  induction cs with
  | nil => trivial
  | cons c cs ih => exact (h c).bind fun _ ↦ ih

/-- It is the same after the block. -/
theorem Keeps.eval {b : Block D ε α} (hb : b.Keeps view) {d : D} {r : α × D}
    (h : b.eval d = .ok r) : view r.2 = view d := by
  induction b generalizing d with
  | done a =>
    cases h
    rfl
  | raise e => cases h
  | query k ih => exact ih d (hb d) h
  | statement g k ih =>
    rw [Block.eval] at h
    cases hg : g d with
    | error e =>
      rw [hg] at h
      cases h
    | ok r' =>
      rw [hg] at h
      exact (ih r'.2 (hb.2 r'.2) h).trans (hb.1 d r' hg)

end

/-- What every statement of a block keeps true, whatever its queries return. -/
def Maintains (J : D → Prop) : Block D ε α → Prop
  | done _ => True
  | raise _ => True
  | query k => ∀ d, Maintains J (k d)
  | statement f k => (∀ d r, J d → f d = .ok r → J r.1) ∧ ∀ n, Maintains J (k n)

section
variable {J : D → Prop}

theorem Keeps.maintains {V : Type*} {view : D → V} {b : Block D ε α} (hb : b.Keeps view)
    (h : ∀ d d', view d' = view d → J d → J d') : b.Maintains J := by
  induction b with
  | done a => trivial
  | raise e => trivial
  | query k ih => exact fun d ↦ ih d (hb d)
  | statement g k ih => exact ⟨fun d r hd hr ↦ h d r.1 (hb.1 d r hr) hd, fun n ↦ ih n (hb.2 n)⟩

theorem Maintains.bind {b : Block D ε α} {f : α → Block D ε β} (hb : b.Maintains J)
    (hf : ∀ a, (f a).Maintains J) : (b >>= f).Maintains J := by
  induction b with
  | done a => exact hf a
  | raise e => trivial
  | query k ih => exact fun d ↦ ih d (hb d)
  | statement g k ih => exact ⟨hb.1, fun n ↦ ih n (hb.2 n)⟩

theorem maintains_select (f : D → α) : (select f : Block D ε α).Maintains J := fun _ ↦ trivial

theorem maintains_execute {f : D → Except ε D} (h : ∀ d d', J d → f d = .ok d' → J d') :
    (execute f).Maintains J := by
  constructor
  · intro d r hd hr
    dsimp only at hr
    cases hf : f d with
    | error e =>
      rw [hf] at hr
      cases hr
    | ok d' =>
      rw [hf] at hr
      cases hr
      exact h d d' hd hf
  · exact fun _ ↦ trivial

theorem maintains_forM {γ : Type*} {f : γ → Block D ε PUnit} {cs : List γ}
    (h : ∀ c ∈ cs, (f c).Maintains J) : (cs.forM f).Maintains J := by
  induction cs with
  | nil => trivial
  | cons c cs ih =>
    exact (h c List.mem_cons_self).bind fun _ ↦
      ih fun c' hc' ↦ h c' (List.mem_cons_of_mem c hc')

/-- It is true after the block. -/
theorem Maintains.eval {b : Block D ε α} (hb : b.Maintains J) {d : D} (hd : J d) {r : α × D}
    (h : b.eval d = .ok r) : J r.2 := by
  induction b generalizing d with
  | done a =>
    cases h
    exact hd
  | raise e => cases h
  | query k ih => exact ih d (hb d) hd h
  | statement g k ih =>
    rw [Block.eval] at h
    cases hg : g d with
    | error e =>
      rw [hg] at h
      cases h
    | ok r' =>
      rw [hg] at h
      exact ih r'.2 (hb.2 r'.2) (hb.1 d r' hd hg) h

end

/-- What holds after a block that has seen the databases `seen`, when each of its steps
meets the assumption `A` and `Q` holds of its end: its statements change the database as `P`
says. -/
def Safe (A : List D → D → Prop) (P : D → D → Prop) (Q : List D → Except ε α → Prop) :
    Block D ε α → List D → Prop
  | done a, seen => Q seen (.ok a)
  | raise e, seen => Q seen (.error e)
  | query k, seen => ∀ d, A seen d → Safe A P Q (k d) (d :: seen)
  | statement f k, seen => ∀ d, A seen d →
    match (statement f k).eval d with
    | .ok (a, d') => P d d' ∧ Q [] (.ok a)
    | .error e => Q [] (.error e)

section
variable {A : List D → D → Prop} {P : D → D → Prop} {Q Q' : List D → Except ε α → Prop}

theorem Safe.mono {b : Block D ε α} {seen : List D} (h : b.Safe A P Q seen)
    (hq : ∀ seen r, Q seen r → Q' seen r) : b.Safe A P Q' seen := by
  induction b generalizing seen with
  | done a => exact hq seen _ h
  | raise e => exact hq seen _ h
  | query k ih => exact fun d hd ↦ ih d (h d hd)
  | statement g k ih =>
    intro d hd
    have hend := h d hd
    cases hr : (statement g k).eval d with
    | ok r =>
      rw [hr] at hend
      exact ⟨hend.1, hq _ _ hend.2⟩
    | error e =>
      rw [hr] at hend
      exact hq _ _ hend

/-- Alone, a block changes the database as its statements may. -/
theorem Safe.eval {b : Block D ε α} {seen : List D} (h : b.Safe (fun _ _ ↦ True) P Q seen) (d : D) :
    ∃ seen', match b.eval d with
      | .ok (a, d') => (d' = d ∨ P d d') ∧ Q seen' (.ok a)
      | .error e => Q seen' (.error e) := by
  induction b generalizing seen with
  | done a => exact ⟨seen, .inl rfl, h⟩
  | raise e => exact ⟨seen, h⟩
  | query k ih => exact ih d (h d trivial)
  | statement g k ih =>
    have hend := h d trivial
    refine ⟨[], ?_⟩
    cases hr : (statement g k).eval d with
    | ok r =>
      rw [hr] at hend
      exact ⟨.inr hend.1, hend.2⟩
    | error e =>
      rw [hr] at hend
      exact hend

/-- A block is safe when its statements keep what holds wherever it may start. -/
theorem Maintains.safe {J : D → Prop} {b : Block D ε α} {seen : List D} (hb : b.Maintains J)
    (hj : ∀ seen' d, seen ⊆ seen' → A seen' d → J d) (hp : ∀ d d', J d' → P d d')
    (hq : ∀ seen r, Q seen r) : b.Safe A P Q seen := by
  induction b generalizing seen with
  | done a => exact hq ..
  | raise e => exact hq ..
  | query k ih =>
    intro d _
    apply ih d (hb d)
    intro seen' d' hsub
    exact hj seen' d' fun c hc ↦ hsub (List.mem_cons_of_mem d hc)
  | statement g k ih =>
    intro d hd
    cases hr : (statement g k).eval d with
    | ok r => exact ⟨hp d r.2 (hb.eval (hj seen d (List.Subset.refl seen) hd) hr), hq ..⟩
    | error e => exact hq ..

end

/-- The block begins with a statement, and all of it runs alone. -/
def Starts : Block D ε α → Prop
  | statement _ _ => True
  | _ => False

theorem starts_execute (f : D → Except ε D) : (execute f).Starts := trivial

theorem Starts.bind {b : Block D ε α} (hb : b.Starts) (f : α → Block D ε β) :
    (b >>= f).Starts := by
  cases b with
  | statement g k => trivial
  | _ => exact hb.elim

theorem Starts.safe {b : Block D ε α} {A : List D → D → Prop} {P : D → D → Prop}
    {Q : List D → Except ε α → Prop} {seen : List D} (hb : b.Starts)
    (h : ∀ d, A seen d → match b.eval d with
      | .ok (a, d') => P d d' ∧ Q [] (.ok a)
      | .error e => Q [] (.error e)) : b.Safe A P Q seen := by
  cases b with
  | statement g k => exact h
  | _ => exact hb.elim

end Block

/-- Blocks one after another, each knowing how the one before it ended. -/
inductive Session (D ε α : Type) : Type 1 where
  | done (a : α)
  | raise (e : ε)
  | block {β : Type} (b : Block D ε β) (k : Except ε β → Session D ε α)

namespace Session

variable {D ε α β : Type}

/-- Run one session after another. -/
def bind : Session D ε α → (α → Session D ε β) → Session D ε β
  | done a, f => f a
  | raise e, _ => raise e
  | block b k, f => block b fun r ↦ (k r).bind f

instance : Monad (Session D ε) where
  pure := done
  bind := bind

/-- A session that ends as an earlier block did. -/
def ofExcept : Except ε α → Session D ε α
  | .ok a => done a
  | .error e => raise e

/-- Work on a connection of its own. -/
def withConnection (b : Block D ε α) : Session D ε α := block b ofExcept

/-- Handle the exceptions of a session. -/
def tryCatch : Session D ε α → (ε → Session D ε α) → Session D ε α
  | done a, _ => done a
  | raise e, h => h e
  | block b k, h => block b fun r ↦ (k r).tryCatch h

/-- One step: a query, or a whole transaction, or the end of a block. -/
def step (d : D) : Session D ε α → D × Session D ε α
  | done a => (d, done a)
  | raise e => (d, raise e)
  | block (.done a) k => (d, k (.ok a))
  | block (.raise e) k => (d, k (.error e))
  | block (.query f) k => (d, block (f d) k)
  | block (.statement f g) k =>
    match (Block.statement f g).eval d with
    | .ok (a, d') => (d', k (.ok a))
    | .error e => (d, k (.error e))

/-- The databases seen after one step: a query adds one, a transaction forgets them. -/
def see (d : D) (seen : List D) : Session D ε α → List D
  | block (.query _) _ => d :: seen
  | block (.statement _ _) _ => []
  | _ => seen

/-- What a session does when nothing else happens. A block that raises leaves the database as
it was. -/
def run : Session D ε α → D → Except ε α × D
  | done a, d => (.ok a, d)
  | raise e, d => (.error e, d)
  | block b k, d =>
    match b.eval d with
    | .ok (a, d') => (k (.ok a)).run d'
    | .error e => (k (.error e)).run d

/-- Alone, the rest of a session does what the session did. -/
theorem run_step (s : Session D ε α) (d : D) : (s.step d).2.run (s.step d).1 = s.run d := by
  cases s with
  | done a => rfl
  | raise e => rfl
  | block b k =>
    cases b with
    | done a => rfl
    | raise e => rfl
    | query f => rw [step, run, run, Block.eval_query]
    | statement f g =>
      rw [step, run]
      cases (Block.statement f g).eval d <;> rfl

theorem run_withConnection (b : Block D ε α) (d : D) : (withConnection b).run d =
    match b.eval d with
    | .ok (a, d') => (.ok a, d')
    | .error e => (.error e, d) := by
  rw [withConnection, run]
  cases b.eval d <;> rfl

theorem run_bind (s : Session D ε α) (f : α → Session D ε β) (d : D) : (s >>= f).run d =
    match s.run d with
    | (.ok a, d') => (f a).run d'
    | (.error e, d') => (.error e, d') := by
  change (s.bind f).run d = _
  induction s generalizing d with
  | done a => rfl
  | raise e => rfl
  | block b k ih =>
    rw [Session.bind, run, run]
    cases b.eval d with
    | ok r => exact ih _ _
    | error e => exact ih _ _

/-- A handled exception leaves the database as the session left it. -/
theorem run_tryCatch (s : Session D ε α) (h : ε → Session D ε α) (d : D) : (s.tryCatch h).run d =
    match s.run d with
    | (.ok a, d') => (.ok a, d')
    | (.error e, d') => (h e).run d' := by
  induction s generalizing d with
  | done a => rfl
  | raise e => rfl
  | block b k ih =>
    rw [tryCatch, run, run]
    cases b.eval d with
    | ok r => exact ih _ _
    | error e => exact ih _ _

/-- Every transaction of a session changes the database as `P` says, and it raises only
exceptions in `E`, when each of its steps meets the assumption `A`. -/
def Safe (A : List D → D → Prop) (P : D → D → Prop) (E : ε → Prop) :
    Session D ε α → List D → Prop
  | done _, _ => True
  | raise e, _ => E e
  | block b k, seen => b.Safe A P (fun seen r ↦ Safe A P E (k r) seen) seen

section
variable {A : List D → D → Prop} {P : D → D → Prop} {E : ε → Prop}

theorem Safe.bind {s : Session D ε α} {f : α → Session D ε β} {seen : List D}
    (hs : s.Safe A P E seen) (hf : ∀ a seen, (f a).Safe A P E seen) :
    (s >>= f).Safe A P E seen := by
  change (s.bind f).Safe A P E seen
  induction s generalizing seen with
  | done a => exact hf a seen
  | raise e => exact hs
  | block b k ih => exact Block.Safe.mono hs fun seen r hr ↦ ih r hr

theorem Safe.tryCatch {s : Session D ε α} {h : ε → Session D ε α} {seen : List D}
    (hs : s.Safe A P (fun _ ↦ True) seen) (hh : ∀ e seen, (h e).Safe A P E seen) :
    (s.tryCatch h).Safe A P E seen := by
  induction s generalizing seen with
  | done a => trivial
  | raise e => exact hh e seen
  | block b k ih => exact Block.Safe.mono hs fun seen r hr ↦ ih r hr

/-- Alone, a session changes the database as its transactions may. -/
theorem Safe.run {s : Session D ε α} {seen : List D} (hs : s.Safe (fun _ _ ↦ True) P E seen)
    (hrefl : ∀ d, P d d) (htrans : ∀ a b c, P a b → P b c → P a c) (d : D) :
    P d (s.run d).2 := by
  induction s generalizing seen d with
  | done a => exact hrefl d
  | raise e => exact hrefl d
  | block b k ih =>
    obtain ⟨seen', hend⟩ := Block.Safe.eval hs d
    rw [Session.run]
    cases hr : b.eval d with
    | ok r =>
      rw [hr] at hend
      have hrest := ih (.ok r.1) hend.2 r.2
      rcases hend.1 with hsame | hchanged
      · rw [hsame] at hrest
        change P d ((k (.ok r.1)).run r.2).2
        rw [hsame]
        exact hrest
      · exact htrans d r.2 _ hchanged hrest
    | error e =>
      rw [hr] at hend
      exact ih (.error e) hend d

/-- A session that reads something first. -/
theorem safe_query {f : D → α} {k : α → Session D ε β} {seen : List D}
    (h : ∀ d, A seen d → (k (f d)).Safe A P E (d :: seen)) :
    (withConnection (Block.select f) >>= k).Safe A P E seen := h

/-- Work on a connection of its own is safe when its exceptions are allowed. -/
theorem safe_withConnection {b : Block D ε α} {seen : List D}
    (h : b.Safe A P (fun _ r ↦ ∀ e, r = .error e → E e) seen) :
    (withConnection b).Safe A P E seen := by
  apply Block.Safe.mono h
  intro seen r hr
  cases r with
  | ok a => trivial
  | error e => exact hr e rfl

end

/-- A step of a safe session is what `P` allows, and leaves a safe session. -/
theorem Safe.step {A : List D → D → Prop} {P : D → D → Prop} {E : ε → Prop}
    {s : Session D ε α} {seen : List D} {d : D} (hs : s.Safe A P E seen) (ha : A seen d) :
    ((s.step d).1 = d ∨ P d (s.step d).1) ∧ (s.step d).2.Safe A P E (s.see d seen) := by
  cases s with
  | done a => exact ⟨.inl rfl, trivial⟩
  | raise e => exact ⟨.inl rfl, hs⟩
  | block b k =>
    cases b with
    | done a => exact ⟨.inl rfl, hs⟩
    | raise e => exact ⟨.inl rfl, hs⟩
    | query f => exact ⟨.inl rfl, hs d ha⟩
    | statement f g =>
      have h := hs d ha
      simp only [Session.step, see]
      cases hr : (Block.statement f g).eval d with
      | error e =>
        rw [hr] at h
        exact ⟨.inl rfl, h⟩
      | ok r =>
        rw [hr] at h
        exact ⟨.inr h.1, h.2⟩

end Session

/-! ### A worker and its clients -/

/-- A session for a job, with the databases that its queries have seen. -/
structure Task (D ε J : Type) where
  job : J
  program : Session D ε Unit
  seen : List D

/-- A database with one worker, which handles jobs in turn, and clients served at once. -/
structure System (D ε J C : Type) where
  database : D
  worker : Option (Task D ε J)
  clients : List (Task D ε C)

/-- What can happen: a job arrives at an idle worker, the worker goes on, a request arrives,
a client goes on. -/
inductive SystemEvent (J C : Type) where
  | job (j : J)
  | work
  | request (c : C)
  | serve (i : Nat)

namespace System

variable {D ε J C : Type}

/-- One step of a task on the database. -/
def advance (d : D) (t : Task D ε J) : D × Task D ε J :=
  ((t.program.step d).1,
    { t with program := (t.program.step d).2, seen := t.program.see d t.seen })

/-- The system as a machine; a step outputs the exception that ends the worker's job. -/
def machine (work : J → Session D ε Unit) (serve : C → Session D ε Unit) :
    Machine (System D ε J C) (SystemEvent J C) (Option ε) where
  step s
    | .job j =>
      match s.worker with
      | none => ({ s with worker := some ⟨j, work j, []⟩ }, none)
      | some _ => (s, none)
    | .work =>
      match s.worker with
      | none => (s, none)
      | some t =>
        match t.program with
        | .done _ => ({ s with worker := none }, none)
        | .raise e => ({ s with worker := none }, some e)
        | _ =>
          let (d, t) := advance s.database t
          ({ s with database := d, worker := some t }, none)
    | .request c => ({ s with clients := s.clients ++ [⟨c, serve c, []⟩] }, none)
    | .serve i =>
      match s.clients[i]? with
      | none => (s, none)
      | some t =>
        let (d, t) := advance s.database t
        ({ s with database := d, clients := s.clients.set i t }, none)

/-- The task that an event advances meets its step condition. -/
def Meets (worker : J → List D → D → Prop) (client : C → List D → D → Prop)
    (s : System D ε J C) : SystemEvent J C → Prop
  | .work => ∀ t, s.worker = some t → worker t.job t.seen s.database
  | .serve i => ∀ t, s.clients[i]? = some t → client t.job t.seen s.database
  | _ => True

instance decidableMeets (worker : J → List D → D → Prop) (client : C → List D → D → Prop)
    [∀ j seen d, Decidable (worker j seen d)] [∀ c seen d, Decidable (client c seen d)]
    (s : System D ε J C) : (e : SystemEvent J C) → Decidable (Meets worker client s e)
  | .job _ => .isTrue trivial
  | .request _ => .isTrue trivial
  | .work => inferInstanceAs (Decidable (∀ t ∈ s.worker, worker t.job t.seen s.database))
  | .serve i => inferInstanceAs (Decidable (∀ t ∈ s.clients[i]?, client t.job t.seen s.database))

/-- Assumptions and commitments of a worker and its clients: an invariant of the database,
what the clients may change under the worker, and the step conditions of both. -/
structure Rules (work : J → Session D ε Unit) (serve : C → Session D ε Unit) where
  inv : D → Prop
  rely : D → D → Prop
  worker : J → List D → D → Prop
  client : C → List D → D → Prop
  allowed : ε → Prop
  rely_refl : ∀ d, inv d → rely d d
  work_safe : ∀ j, (work j).Safe
    (fun seen d ↦ inv d ∧ (∀ c ∈ seen, rely c d) ∧ worker j seen d) (fun _ d' ↦ inv d') allowed []
  serve_safe : ∀ c, (serve c).Safe (fun seen d ↦ inv d ∧ client c seen d)
    (fun d d' ↦ inv d' ∧ ∀ c, rely c d → rely c d') (fun _ ↦ True) []

variable {work : J → Session D ε Unit} {serve : C → Session D ε Unit}

/-- The database meets its invariant, and every task is safe to go on. -/
structure Sound (r : Rules work serve) (s : System D ε J C) : Prop where
  inv : r.inv s.database
  worker : ∀ t, s.worker = some t →
    t.program.Safe (fun seen d ↦ r.inv d ∧ (∀ c ∈ seen, r.rely c d) ∧ r.worker t.job seen d)
      (fun _ d' ↦ r.inv d') r.allowed t.seen ∧ ∀ c ∈ t.seen, r.rely c s.database
  clients : ∀ t ∈ s.clients,
    t.program.Safe (fun seen d ↦ r.inv d ∧ r.client t.job seen d)
      (fun d d' ↦ r.inv d' ∧ ∀ c, r.rely c d → r.rely c d') (fun _ ↦ True) t.seen

/-- What a session has seen is what it saw before or sees now. -/
private theorem mem_see {d c : D} {seen : List D} {p : Session D ε Unit} (h : c ∈ p.see d seen) :
    c = d ∨ c ∈ seen := by
  unfold Session.see at h
  split at h
  · exact List.mem_cons.mp h
  · cases h
  · exact .inr h

/-- A transaction leaves nothing seen. -/
private theorem see_of_changed {d c : D} {seen : List D} {p : Session D ε Unit}
    (h : c ∈ p.see d seen) : (p.step d).1 = d := by
  unfold Session.see at h
  split at h
  · rfl
  · cases h
  · next hq hs =>
    cases p with
    | done a => rfl
    | raise e => rfl
    | block b k =>
      cases b with
      | done a => rfl
      | raise e => rfl
      | query f => exact absurd rfl (hq _ _ _)
      | statement f g => exact absurd rfl (hs _ _ _ _)

/-- A step whose task meets its condition keeps the system sound. -/
theorem sound_step {r : Rules work serve} {s : System D ε J C} {e : SystemEvent J C}
    (hs : Sound r s) (hm : Meets r.worker r.client s e) :
    Sound r ((machine work serve).step s e).1 := by
  obtain ⟨hinv, hworker, hclients⟩ := hs
  cases e with
  | job j =>
    cases hw : s.worker with
    | some t =>
      simp only [machine, hw]
      exact ⟨hinv, hworker, hclients⟩
    | none =>
      simp only [machine, hw]
      refine ⟨hinv, ?_, hclients⟩
      rintro t ht
      cases ht
      exact ⟨r.work_safe j, nofun⟩
  | work =>
    cases hw : s.worker with
    | none =>
      simp only [machine, hw]
      exact ⟨hinv, hworker, hclients⟩
    | some t =>
      obtain ⟨hsafe, hseen⟩ := hworker t hw
      obtain ⟨hdb, hsafe'⟩ := hsafe.step ⟨hinv, hseen, hm t hw⟩
      have hnone : Sound r { s with worker := none } := ⟨hinv, nofun, hclients⟩
      have hnext : Sound r
          { s with database := (advance s.database t).1, worker := some (advance s.database t).2 } := by
        have hinv' : r.inv (t.program.step s.database).1 := by
          rcases hdb with h | h
          · rwa [h]
          · exact h
        refine ⟨hinv', ?_, hclients⟩
        rintro t' ht'
        cases ht'
        refine ⟨hsafe', fun c hc ↦ ?_⟩
        change r.rely c (t.program.step s.database).1
        rw [see_of_changed hc]
        rcases mem_see hc with rfl | hc
        · exact r.rely_refl _ hinv
        · exact hseen c hc
      simp only [machine, hw]
      cases hp : t.program with
      | done a => exact hnone
      | raise e => exact hnone
      | block b k => exact hnext
  | request c =>
    refine ⟨hinv, hworker, fun t ht ↦ ?_⟩
    rcases List.mem_append.mp ht with ht | ht
    · exact hclients t ht
    · cases List.mem_singleton.mp ht
      exact r.serve_safe c
  | serve i =>
    cases hi : s.clients[i]? with
    | none =>
      simp only [machine, hi]
      exact ⟨hinv, hworker, hclients⟩
    | some t =>
      have hsafe := hclients t (List.mem_of_getElem? hi)
      obtain ⟨hdb, hsafe'⟩ := hsafe.step ⟨hinv, hm t hi⟩
      have hinv' : r.inv (t.program.step s.database).1 := by
        rcases hdb with h | h
        · rwa [h]
        · exact h.1
      have hrely (c : D) (hc : r.rely c s.database) : r.rely c (t.program.step s.database).1 := by
        rcases hdb with h | h
        · rwa [h]
        · exact h.2 c hc
      simp only [machine, hi]
      refine ⟨hinv', fun t' ht' ↦ ?_, fun t' ht' ↦ ?_⟩
      · obtain ⟨hsafe, hseen⟩ := hworker t' ht'
        exact ⟨hsafe, fun c hc ↦ hrely c (hseen c hc)⟩
      · rcases List.mem_or_eq_of_mem_set ht' with ht' | rfl
        · exact hclients t' ht'
        · exact hsafe'

/-- A sound system outputs only allowed exceptions. -/
theorem allowed_of_sound {r : Rules work serve} {s : System D ε J C} (hs : Sound r s)
    (ev : SystemEvent J C) :
    ∀ e ∈ ((machine work serve).step s ev).2, r.allowed e := by
  intro e he
  cases ev with
  | job j => cases hw : s.worker <;> simp [machine, hw] at he
  | request c => cases he
  | serve i => cases hi : s.clients[i]? <;> simp [machine, hi] at he
  | work =>
    cases hw : s.worker with
    | none => simp [machine, hw] at he
    | some t =>
      obtain ⟨hsafe, -⟩ := hs.worker t hw
      cases hp : t.program with
      | done a => simp [machine, hw, hp] at he
      | block b k => simp [machine, hw, hp] at he
      | raise e' =>
        simp only [machine, hw, hp, Option.mem_def, Option.some.injEq] at he
        rw [hp] at hsafe
        exact he ▸ hsafe

/-- A system with an idle worker and no clients is sound when its database is. -/
theorem sound_idle (r : Rules work serve) {d : D} (h : r.inv d) :
    Sound r ⟨d, none, []⟩ := ⟨h, nofun, nofun⟩

/-- In a run whose steps meet their conditions the invariant of the database holds
throughout, and the worker's jobs end in allowed exceptions only. -/
theorem holds_along (r : Rules work serve) {s : System D ε J C} {es : List (SystemEvent J C)}
    (hs : Sound r s) (hm : (machine work serve).Along (Meets r.worker r.client) s es) :
    (machine work serve).Along
      (fun s ev ↦ r.inv ((machine work serve).step s ev).1.database ∧
        ∀ e ∈ ((machine work serve).step s ev).2, r.allowed e) s es :=
  (machine work serve).along_of_invariant (fun _ _ ↦ sound_step)
    (fun _ ev hs hm ↦ ⟨(sound_step hs hm).inv, allowed_of_sound hs ev⟩) hs hm

end System

end EdgeMonitor.Base
