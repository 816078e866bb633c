import Mathlib

/-!
# Episodes of a signal

Library `Base`. An episode opens when a run of violating samples has lasted for a dwell time, and
closes with the first later sample that recovers. `read` splits a whole history into episodes;
`follow` goes along with one sample after another. Both find the same.
-/

namespace EdgeMonitor.Base

universe u

/-- Which samples violate a condition and which recover, when they were taken, and how long a
violation has to last. -/
structure Watch (α : Type u) where
  violates : α → Bool
  recovers : α → Bool
  time : α → Int
  dwell : Int

/-- The samples of an episode: those from the first violation until the episode opens, those that
do not recover, and the one that closes it. -/
structure Episode (α : Type u) where
  waited : List α
  opening : α
  course : List α
  closing : Option α

/-- How a history ends: with nothing, with a violation that has not lasted long enough, or with an
episode that is open. -/
inductive Phase (α : Type u) where
  | normal
  | pending (first : α) (rest : List α)
  | active

/-- What one keeps of the samples so far. -/
inductive Mode (α : Type u) where
  | idle
  | waiting (first : α) (rest : List α)
  | opened (waited : List α) (opening : α) (course : List α)

/-- The episodes that are closed, and what goes on. -/
structure Tracker (α : Type u) where
  closed : List (Episode α)
  mode : Mode α

namespace Watch

variable {α : Type u} (w : Watch α)

/-- The violation that began with `first` has lasted long enough. -/
def ripe (first x : α) : Bool := w.dwell ≤ w.time x - w.time first

/-- What is left of a list without the beginning that meets a condition. -/
private theorem length_dropWhile_le (p : α → Bool) (xs : List α) :
    (xs.dropWhile p).length ≤ xs.length := (List.dropWhile_suffix p).length_le

/-- What follows an episode is shorter. -/
private theorem length_after {p q v : α → Bool} {x opening closing : α}
    {xs late after : List α} (hripe : (x :: xs.takeWhile v).dropWhile p = opening :: late)
    (hclosing : (late ++ xs.dropWhile v).dropWhile q = closing :: after) :
    after.length < (x :: xs).length := by
  have hlate := length_dropWhile_le p (x :: xs.takeWhile v)
  have hafter := length_dropWhile_le q (late ++ xs.dropWhile v)
  have hsplit := congrArg List.length (List.takeWhile_append_dropWhile (p := v) (l := xs))
  rw [hripe] at hlate
  rw [hclosing] at hafter
  simp only [List.length_append, List.length_cons] at *
  omega

/-- The first sample that does not meet a condition. -/
private theorem not_of_dropWhile {p : α → Bool} {xs ys : List α} {y : α}
    (h : xs.dropWhile p = y :: ys) : p y = false := by
  have hne : xs.dropWhile p ≠ [] := by simp [h]
  have hhead := List.head_dropWhile_not p hne
  simpa [h] using hhead

/-- The episodes of a history, and how it ends. -/
def read : List α → List (Episode α) × Phase α
  | [] => ([], .normal)
  | x :: xs =>
    if w.violates x then
      -- the maximal run of violating samples from `x`, and its samples after the dwell time
      let run := x :: xs.takeWhile w.violates
      let rest := xs.dropWhile w.violates
      match _hripe : run.dropWhile (fun y ↦ !w.ripe x y) with
      | [] => if rest.isEmpty then ([], .pending x (xs.takeWhile w.violates)) else read rest
      | opening :: late =>
        let waited := run.takeWhile fun y ↦ !w.ripe x y
        let later := late ++ rest
        let course := later.takeWhile fun y ↦ !w.recovers y
        match _hclosing : later.dropWhile (fun y ↦ !w.recovers y) with
        | [] => ([⟨waited, opening, course, none⟩], .active)
        | closing :: after =>
          (⟨waited, opening, course, some closing⟩ :: (read after).1, (read after).2)
    else read xs
termination_by xs => xs.length
decreasing_by
  · exact Nat.lt_succ_of_le (length_dropWhile_le _ _)
  · exact length_after _hripe _hclosing
  · exact Nat.lt_succ_self _

/-- One more sample. -/
def follow (t : Tracker α) (x : α) : Tracker α :=
  match t.mode with
  | .idle =>
    if w.violates x then
      if w.ripe x x then ⟨t.closed, .opened [] x []⟩ else ⟨t.closed, .waiting x []⟩
    else ⟨t.closed, .idle⟩
  | .waiting first rest =>
    if w.violates x then
      if w.ripe first x then ⟨t.closed, .opened (first :: rest) x []⟩
      else ⟨t.closed, .waiting first (rest ++ [x])⟩
    else ⟨t.closed, .idle⟩
  | .opened waited opening course =>
    if w.recovers x then ⟨t.closed ++ [⟨waited, opening, course, some x⟩], .idle⟩
    else ⟨t.closed, .opened waited opening (course ++ [x])⟩

end Watch

/-- What the samples so far amount to. -/
def Tracker.history {α : Type u} (t : Tracker α) : List (Episode α) × Phase α :=
  match t.mode with
  | .idle => (t.closed, .normal)
  | .waiting first rest => (t.closed, .pending first rest)
  | .opened waited opening course => (t.closed ++ [⟨waited, opening, course, none⟩], .active)

namespace Watch

variable {α : Type u} (w : Watch α)

/-- The history from the sample that opens an episode. -/
def openedHistory (waited : List α) (opening : α) (later : List α) :
    List (Episode α) × Phase α :=
  let course := later.takeWhile fun y ↦ !w.recovers y
  match later.dropWhile fun y ↦ !w.recovers y with
  | [] => ([⟨waited, opening, course, none⟩], .active)
  | closing :: after =>
    (⟨waited, opening, course, some closing⟩ :: (w.read after).1, (w.read after).2)

@[simp] theorem read_nil : w.read [] = ([], .normal) := by
  rw [read]

variable {w} {x : α} {xs : List α}

/-- Samples that do not violate the condition are no part of an episode. -/
theorem read_skip (h : w.violates x = false) : w.read (x :: xs) = w.read xs := by
  rw [read, h]
  rfl

/-- The run does not last long enough. -/
theorem read_short (h : w.violates x = true)
    (hshort : (x :: xs.takeWhile w.violates).dropWhile (fun y ↦ !w.ripe x y) = []) :
    w.read (x :: xs) =
      if (xs.dropWhile w.violates).isEmpty then ([], .pending x (xs.takeWhile w.violates))
      else w.read (xs.dropWhile w.violates) := by
  rw [read, if_pos h]
  dsimp only
  split
  · rfl
  next opening late hripe =>
    rw [hshort] at hripe
    cases hripe

/-- The run opens an episode. -/
theorem read_opens {opening : α} {late : List α} (h : w.violates x = true)
    (hripe : (x :: xs.takeWhile w.violates).dropWhile (fun y ↦ !w.ripe x y) = opening :: late) :
    w.read (x :: xs) =
      w.openedHistory ((x :: xs.takeWhile w.violates).takeWhile fun y ↦ !w.ripe x y) opening
        (late ++ xs.dropWhile w.violates) := by
  rw [read, if_pos h]
  dsimp only
  split
  next hshort =>
    rw [hripe] at hshort
    cases hshort
  next opening' late' hripe' =>
    rw [hripe] at hripe'
    cases hripe'
    rw [openedHistory]
    split
    next hnone => rw [hnone]
    next closing after hclosing => rw [hclosing]

/-! ### Sample by sample -/

variable {closed : List (Episode α)} {ys : List α}

/-- The run goes on. -/
theorem foldl_waiting {first : α} {rest : List α}
    (h : ∀ y ∈ ys, w.violates y = true ∧ w.ripe first y = false) :
    ys.foldl w.follow ⟨closed, .waiting first rest⟩ = ⟨closed, .waiting first (rest ++ ys)⟩ := by
  induction ys generalizing rest with
  | nil => rw [List.foldl_nil, List.append_nil]
  | cons y ys ih =>
    obtain ⟨hviolates, hripe⟩ := h y List.mem_cons_self
    have hnext : w.follow ⟨closed, .waiting first rest⟩ y =
        ⟨closed, .waiting first (rest ++ [y])⟩ := by
      rw [follow]
      simp [hviolates, hripe]
    rw [List.foldl_cons, hnext, ih fun z hz ↦ h z (List.mem_cons_of_mem y hz), List.append_assoc,
      List.singleton_append]

/-- The episode goes on. -/
theorem foldl_opened {waited course : List α} {opening : α}
    (h : ∀ y ∈ ys, w.recovers y = false) :
    ys.foldl w.follow ⟨closed, .opened waited opening course⟩ =
      ⟨closed, .opened waited opening (course ++ ys)⟩ := by
  induction ys generalizing course with
  | nil => rw [List.foldl_nil, List.append_nil]
  | cons y ys ih =>
    have hnext : w.follow ⟨closed, .opened waited opening course⟩ y =
        ⟨closed, .opened waited opening (course ++ [y])⟩ := by
      rw [follow]
      simp [h y List.mem_cons_self]
    rw [List.foldl_cons, hnext, ih fun z hz ↦ h z (List.mem_cons_of_mem y hz), List.append_assoc,
      List.singleton_append]

/-- What both find from a list of samples. -/
def Agrees (w : Watch α) (xs : List α) : Prop :=
  ∀ closed, (xs.foldl w.follow ⟨closed, .idle⟩).history =
    (closed ++ (w.read xs).1, (w.read xs).2)

/-- From the sample that opens an episode, if both find the same in what follows it. -/
theorem history_opened {waited later : List α} {opening : α}
    (hafter : ∀ after : List α, after.length < later.length → w.Agrees after) :
    (later.foldl w.follow ⟨closed, .opened waited opening []⟩).history =
      (closed ++ (w.openedHistory waited opening later).1,
        (w.openedHistory waited opening later).2) := by
  have hcourse : ∀ y ∈ later.takeWhile (fun y ↦ !w.recovers y), w.recovers y = false := by
    intro y hy
    simpa using List.mem_takeWhile_imp hy
  have hsplit := List.takeWhile_append_dropWhile (p := fun y ↦ !w.recovers y) (l := later)
  rw [openedHistory]
  cases hclosing : later.dropWhile fun y ↦ !w.recovers y with
  | nil =>
    rw [hclosing, List.append_nil] at hsplit
    rw [hsplit] at hcourse ⊢
    rw [foldl_opened hcourse]
    rfl
  | cons closing after =>
    rw [hclosing] at hsplit
    have hrecovers : w.recovers closing = true := by
      simpa using not_of_dropWhile hclosing
    have hshorter : after.length < later.length := by
      have hlength := congrArg List.length hsplit
      rw [List.length_append, List.length_cons] at hlength
      omega
    have hclose : w.follow ⟨closed, .opened waited opening
        (later.takeWhile fun y ↦ !w.recovers y)⟩ closing =
        ⟨closed ++ [⟨waited, opening, later.takeWhile fun y ↦ !w.recovers y, some closing⟩],
          .idle⟩ := by
      rw [follow]
      simp [hrecovers]
    nth_rewrite 1 [← hsplit]
    rw [List.foldl_append, foldl_opened hcourse, List.nil_append, List.foldl_cons, hclose,
      hafter after hshorter, List.append_assoc, List.singleton_append]

/-- A run that is not ripe keeps one waiting. -/
theorem foldl_run (h : w.violates x = true) (hunripe : w.ripe x x = false)
    (hys : ∀ y ∈ ys, w.violates y = true ∧ w.ripe x y = false) :
    (x :: ys).foldl w.follow ⟨closed, .idle⟩ = ⟨closed, .waiting x ys⟩ := by
  have hfirst : w.follow ⟨closed, .idle⟩ x = ⟨closed, .waiting x []⟩ := by
    rw [follow]
    simp [h, hunripe]
  rw [List.foldl_cons, hfirst, foldl_waiting hys, List.nil_append]

/-- The samples of a run before the one that opens an episode. -/
theorem foldl_opens {opening : α} {late : List α} (h : w.violates x = true)
    (hrun : ∀ y ∈ x :: ys, w.violates y = true)
    (hripe : (x :: ys).dropWhile (fun y ↦ !w.ripe x y) = opening :: late) :
    (x :: ys).foldl w.follow ⟨closed, .idle⟩ =
      late.foldl w.follow ⟨closed, .opened ((x :: ys).takeWhile fun y ↦ !w.ripe x y) opening []⟩ := by
  have hsplit := List.takeWhile_append_dropWhile (p := fun y ↦ !w.ripe x y) (l := x :: ys)
  rw [hripe] at hsplit
  have hopening : w.ripe x opening = true := by
    simpa using not_of_dropWhile hripe
  have hviolates : w.violates opening = true := by
    apply hrun
    rw [← hsplit]
    exact List.mem_append_right _ List.mem_cons_self
  cases hwaited : (x :: ys).takeWhile fun y ↦ !w.ripe x y with
  | nil =>
    rw [hwaited, List.nil_append] at hsplit
    cases hsplit
    have hnext : w.follow ⟨closed, .idle⟩ x = ⟨closed, .opened [] x []⟩ := by
      rw [follow]
      simp [h, hopening]
    rw [List.foldl_cons, hnext]
  | cons first rest =>
    rw [hwaited] at hsplit
    obtain ⟨rfl, hrest⟩ := List.cons.inj hsplit
    have hunripe : ∀ y ∈ first :: rest, w.ripe first y = false := by
      intro y hy
      rw [← hwaited] at hy
      simpa using List.mem_takeWhile_imp hy
    have hwaits : ∀ y ∈ rest, w.violates y = true ∧ w.ripe first y = false := by
      intro y hy
      refine ⟨?_, hunripe y (List.mem_cons_of_mem first hy)⟩
      apply hrun
      rw [← hrest]
      exact List.mem_cons_of_mem first (List.mem_append_left _ hy)
    have hopen : w.follow ⟨closed, .waiting first rest⟩ opening =
        ⟨closed, .opened (first :: rest) opening []⟩ := by
      rw [follow]
      simp [hviolates, hopening]
    have hlist : first :: ys = (first :: rest) ++ opening :: late := by
      rw [← hrest]
      rfl
    rw [hlist, List.foldl_append, foldl_run h (hunripe first List.mem_cons_self) hwaits,
      List.foldl_cons, hopen]

/-- Going along with the samples finds the episodes of the whole history. -/
theorem agrees (w : Watch α) (xs : List α) : w.Agrees xs := by
  induction hn : xs.length using Nat.strong_induction_on generalizing xs with
  | _ n ih =>
    subst hn
    intro closed
    cases xs with
    | nil =>
      rw [read_nil, List.append_nil]
      rfl
    | cons x xs =>
      cases hviolates : w.violates x with
      | false =>
        have hnext : w.follow ⟨closed, .idle⟩ x = ⟨closed, .idle⟩ := by
          rw [follow]
          simp [hviolates]
        rw [read_skip hviolates, List.foldl_cons, hnext]
        exact ih xs.length (Nat.lt_succ_self _) xs rfl closed
      | true =>
        have hrun : ∀ y ∈ x :: xs.takeWhile w.violates, w.violates y = true := by
          intro y hy
          rcases List.mem_cons.mp hy with rfl | hy
          · exact hviolates
          · exact List.mem_takeWhile_imp hy
        have hsplit := List.takeWhile_append_dropWhile (p := w.violates) (l := xs)
        have hlist : x :: xs = (x :: xs.takeWhile w.violates) ++ xs.dropWhile w.violates := by
          rw [List.cons_append, hsplit]
        have hlength := congrArg List.length hlist
        rw [List.length_append] at hlength
        cases hripe : (x :: xs.takeWhile w.violates).dropWhile fun y ↦ !w.ripe x y with
        | nil =>
          have hunripe : ∀ y ∈ x :: xs.takeWhile w.violates, w.ripe x y = false := by
            intro y hy
            simpa using List.dropWhile_eq_nil_iff.mp hripe y hy
          have hwaits : ∀ y ∈ xs.takeWhile w.violates,
              w.violates y = true ∧ w.ripe x y = false := fun y hy ↦
            ⟨hrun y (List.mem_cons_of_mem x hy), hunripe y (List.mem_cons_of_mem x hy)⟩
          rw [read_short hviolates hripe]
          nth_rewrite 1 [hlist]
          rw [List.foldl_append, foldl_run hviolates (hunripe x List.mem_cons_self) hwaits]
          cases hrest : xs.dropWhile w.violates with
          | nil =>
            rw [List.foldl_nil, List.isEmpty_nil, if_pos rfl, List.append_nil]
            rfl
          | cons y ys =>
            have hends : w.violates y = false := not_of_dropWhile hrest
            have hnext : w.follow ⟨closed, .waiting x (xs.takeWhile w.violates)⟩ y =
                ⟨closed, .idle⟩ := by
              rw [follow]
              simp [hends]
            rw [List.foldl_cons, hnext, List.isEmpty_cons, if_neg Bool.false_ne_true,
              read_skip hends]
            apply ih ys.length _ ys rfl closed
            rw [hrest] at hlength
            simp only [List.length_cons] at *
            omega
        | cons opening late =>
          rw [read_opens hviolates hripe]
          nth_rewrite 1 [hlist]
          rw [List.foldl_append, foldl_opens hviolates hrun hripe, ← List.foldl_append]
          apply history_opened
          intro after hafter
          apply ih after.length _ after rfl
          have hlate := length_dropWhile_le (fun y ↦ !w.ripe x y) (x :: xs.takeWhile w.violates)
          rw [hripe] at hlate
          rw [List.length_append] at hafter
          simp only [List.length_cons] at *
          omega

end Watch

end EdgeMonitor.Base
