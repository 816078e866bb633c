import Mathlib

/-!
# Tables with a primary key

Library `Base`. A table is a list of rows with distinct keys. Rows enter by insertion, are
changed in place by updates that keep their key, and stay in insertion order. A sequence
assigns integer keys that were never used before.
-/

namespace EdgeMonitor.Base

universe u v

/-- Rows with distinct primary keys. -/
structure Table {α : Type u} {κ : Type v} (key : α → κ) where
  rows : List α
  keys_nodup : (rows.map key).Nodup

namespace Table

variable {α : Type u} {κ : Type v} {key : α → κ}

instance : Membership α (Table key) := ⟨fun t a ↦ a ∈ t.rows⟩

theorem mem_iff (t : Table key) (a : α) : a ∈ t ↔ a ∈ t.rows := Iff.rfl

/-- The table without rows. -/
def empty : Table key := ⟨[], List.nodup_nil⟩

@[simp] theorem rows_empty : (empty : Table key).rows = [] := rfl

/-- A row that stays as it is keeps its key. -/
theorem key_id (key : α → κ) (a : α) : key (id a) = key a := rfl

/-- Rows with the same key are the same row. -/
theorem eq_of_key {t : Table key} {a b : α} (ha : a ∈ t) (hb : b ∈ t) (h : key a = key b) :
    a = b := List.inj_on_of_nodup_map t.keys_nodup ha hb h

section Find

variable [DecidableEq κ]

/-- The row with a key. -/
def find (t : Table key) (k : κ) : Option α := t.rows.find? fun a ↦ key a = k

theorem find_eq_some_iff (t : Table key) (k : κ) (a : α) :
    t.find k = some a ↔ a ∈ t ∧ key a = k := by
  constructor
  · intro h
    exact ⟨List.mem_of_find?_eq_some h, by simpa using List.find?_some h⟩
  · rintro ⟨ha, rfl⟩
    cases hf : t.find (key a) with
    | none =>
      have hn : key a ≠ key a := by simpa using List.find?_eq_none.mp hf a ha
      exact absurd rfl hn
    | some b =>
      have hb : key b = key a := by simpa using List.find?_some hf
      rw [eq_of_key (List.mem_of_find?_eq_some hf) ha hb]

theorem find_eq_none_iff (t : Table key) (k : κ) : t.find k = none ↔ ∀ a ∈ t, key a ≠ k := by
  simp [find, mem_iff]

/-- Add a row, unless its key is taken. -/
def insert (t : Table key) (a : α) : Option (Table key) :=
  if h : key a ∈ t.rows.map key then none
  else some ⟨t.rows ++ [a], by
    rw [List.map_append, List.nodup_append]
    exact ⟨t.keys_nodup, List.nodup_singleton _, fun k hk k' hk' hkk ↦
      h (List.mem_singleton.mp hk' ▸ hkk ▸ hk)⟩⟩

theorem rows_insert {t t' : Table key} {a : α} (h : t.insert a = some t') :
    t'.rows = t.rows ++ [a] := by
  unfold insert at h
  split at h
  · cases h
  · exact (congrArg rows (Option.some.inj h)).symm

theorem insert_of_fresh {t : Table key} {a : α} (h : ∀ b ∈ t, key b ≠ key a) :
    ∃ t', t.insert a = some t' ∧ t'.rows = t.rows ++ [a] := by
  have hn : key a ∉ t.rows.map key := by
    rintro hm
    obtain ⟨b, hb, he⟩ := List.mem_map.mp hm
    exact h b hb he
  exact ⟨_, dif_neg hn, rfl⟩

end Find

/-- Change the rows that meet a condition, each keeping its key. -/
def update (t : Table key) (p : α → Bool) (f : α → α) (hf : ∀ a, key (f a) = key a) :
    Table key :=
  ⟨t.rows.map fun a ↦ if p a then f a else a, by
    have h : (t.rows.map fun a ↦ if p a then f a else a).map key = t.rows.map key := by
      rw [List.map_map]
      refine List.map_congr_left fun a _ ↦ ?_
      simp only [Function.comp]
      split
      · exact hf a
      · rfl
    rw [h]
    exact t.keys_nodup⟩

section Update

variable {t : Table key} {p : α → Bool} {f : α → α} {hf : ∀ a, key (f a) = key a}

theorem rows_update :
    (t.update p f hf).rows = t.rows.map fun a ↦ if p a then f a else a := rfl

theorem mem_update {a : α} :
    a ∈ t.update p f hf ↔ ∃ b ∈ t, (if p b then f b else b) = a := List.mem_map

/-- A row that the update does not meet stays. -/
theorem mem_update_of_not {a : α} (ha : a ∈ t) (h : p a = false) : a ∈ t.update p f hf :=
  mem_update.mpr ⟨a, ha, by simp [h]⟩

/-- Looking up a key after an update. -/
theorem find_update [DecidableEq κ] (k : κ) :
    (t.update p f hf).find k = (t.find k).map fun a ↦ if p a then f a else a := by
  cases h : t.find k with
  | none =>
    rw [find_eq_none_iff] at h
    refine (find_eq_none_iff _ _).mpr fun a ha ↦ ?_
    obtain ⟨b, hb, rfl⟩ := mem_update.mp ha
    split
    · rw [hf]
      exact h b hb
    · exact h b hb
  | some a =>
    obtain ⟨ha, hk⟩ := (find_eq_some_iff _ _ _).mp h
    refine (find_eq_some_iff _ _ _).mpr ⟨mem_update.mpr ⟨a, ha, rfl⟩, ?_⟩
    dsimp only
    split
    · rw [hf, hk]
    · exact hk

/-- How many rows meet a condition after an update. -/
theorem filter_update (q : α → Bool) :
    (t.update p f hf).rows.filter q =
      (t.rows.filter fun a ↦ q (if p a then f a else a)).map fun a ↦ if p a then f a else a := by
  rw [rows_update, List.filter_map]
  rfl

end Update

section Upsert

variable [DecidableEq κ]

/-- Add a row, or change the one that has its key, `INSERT … ON CONFLICT DO UPDATE`. -/
def upsert (t : Table key) (a : α) (f : α → α) (hf : ∀ b, key (f b) = key b) : Table key :=
  match t.insert a with
  | some t' => t'
  | none => t.update (fun b ↦ key b = key a) f hf

theorem insert_eq_none_iff {t : Table key} {a : α} :
    t.insert a = none ↔ ∃ b, t.find (key a) = some b := by
  rw [insert, ← Option.ne_none_iff_exists', Ne, find_eq_none_iff]
  by_cases h : key a ∈ t.rows.map key
  · rw [dif_pos h]
    obtain ⟨b, hb, hkey⟩ := List.mem_map.mp h
    exact iff_of_true rfl fun hall ↦ hall b hb hkey
  · rw [dif_neg h]
    refine iff_of_false (by simp) (not_not.mpr fun b hb hkey ↦ ?_)
    exact h (List.mem_map.mpr ⟨b, hb, hkey⟩)

/-- Only the row of its key is another. -/
theorem find_upsert (t : Table key) (a : α) (f : α → α) (hf : ∀ b, key (f b) = key b) (k : κ) :
    (t.upsert a f hf).find k =
      if k = key a then some ((t.find k).elim a f) else t.find k := by
  rw [upsert]
  cases h : t.insert a with
  | none =>
    obtain ⟨b, hb⟩ := insert_eq_none_iff.mp h
    dsimp only
    rw [find_update]
    by_cases hk : k = key a
    · have hkey : key b = key a := ((find_eq_some_iff t _ b).mp hb).2
      rw [if_pos hk, hk, hb, Option.map_some, if_pos (by simpa using hkey)]
      rfl
    · rw [if_neg hk]
      cases hc : t.find k with
      | none => rfl
      | some c =>
        have hkey : key c = k := ((find_eq_some_iff t _ c).mp hc).2
        rw [Option.map_some, if_neg (by simpa [hkey] using hk)]
  | some t' =>
    have hfresh : t.find (key a) = none := by
      by_contra hne
      rw [insert_eq_none_iff.mpr (Option.ne_none_iff_exists'.mp hne)] at h
      cases h
    dsimp only
    rw [find, rows_insert h, List.find?_append]
    change (t.find k).or _ = _
    by_cases hk : k = key a
    · rw [if_pos hk, hk, hfresh]
      simp
    · rw [if_neg hk, List.find?_singleton, if_neg (by simpa using Ne.symm hk), Option.or_none]

end Upsert

/-- A table whose keys come from a sequence, `INTEGER PRIMARY KEY AUTOINCREMENT`. -/
structure Sequenced (key : α → Nat) extends Table key where
  sequence : Nat
  key_le : ∀ a ∈ rows, key a ≤ sequence

namespace Sequenced

variable {key : α → Nat}

instance : Membership α (Sequenced key) := ⟨fun t a ↦ a ∈ t.rows⟩

theorem mem_iff (t : Sequenced key) (a : α) : a ∈ t ↔ a ∈ t.rows := Iff.rfl

/-- The table without rows, whose sequence has not started. -/
def empty : Sequenced key := ⟨.empty, 0, nofun⟩

/-- Add the row that the next key gives. -/
def insert (t : Sequenced key) (row : Nat → α) (h : ∀ n, key (row n) = n) : Sequenced key where
  rows := t.rows ++ [row (t.sequence + 1)]
  keys_nodup := by
    rw [List.map_append, List.nodup_append]
    refine ⟨t.keys_nodup, List.nodup_singleton _, fun k hk k' hk' ↦ ?_⟩
    obtain ⟨a, ha, rfl⟩ := List.mem_map.mp hk
    have hle := t.key_le a ha
    rw [List.map_singleton, h, List.mem_singleton] at hk'
    omega
  sequence := t.sequence + 1
  key_le := by
    intro a ha
    rcases List.mem_append.mp ha with ha | ha
    · exact (t.key_le a ha).trans (Nat.le_succ _)
    · rw [List.mem_singleton.mp ha, h]

theorem rows_insert (t : Sequenced key) (row : Nat → α) (h : ∀ n, key (row n) = n) :
    (t.insert row h).rows = t.rows ++ [row (t.sequence + 1)] := rfl

/-- Change the rows that meet a condition, each keeping its key. -/
def update (t : Sequenced key) (p : α → Bool) (f : α → α) (hf : ∀ a, key (f a) = key a) :
    Sequenced key where
  toTable := t.toTable.update p f hf
  sequence := t.sequence
  key_le := by
    intro a ha
    obtain ⟨b, hb, rfl⟩ := Table.mem_update.mp ha
    split
    · rw [hf]
      exact t.key_le b hb
    · exact t.key_le b hb

@[simp] theorem toTable_update (t : Sequenced key) (p : α → Bool) (f : α → α)
    (hf : ∀ a, key (f a) = key a) :
    (t.update p f hf).toTable = t.toTable.update p f hf := rfl

end Sequenced

end Table

end EdgeMonitor.Base
