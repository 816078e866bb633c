import Mathlib

/-!
# Bounded scans of C memory

Library `Base`. The string functions of C on an object given as the list of its bytes. A scan
returns `none` when it would read past the end of the object, so that a result shows that
every read stayed inside. Positions are indices into the object.
-/

namespace EdgeMonitor.Base
namespace CMemory

variable {c stop : UInt8} {memory needle before between rest : List UInt8}

/-! ### Scans -/

/-- The offset of a byte in front of the NUL, or that it does not occur there. -/
def findByte (c : UInt8) : List UInt8 → Option (Option Nat)
  | [] => none
  | b :: rest =>
    if b = c then some (some 0)
    else if b = 0 then some none
    else (findByte c rest).map fun found ↦ found.map (· + 1)

/-- `strchr(memory + start, c)`. -/
def strchr (memory : List UInt8) (start : Nat) (c : UInt8) : Option (Option Nat) :=
  (findByte c (memory.drop start)).map fun found ↦ found.map (start + ·)

/-- Whether the object starts with the given bytes; reading stops at the first difference. -/
def startsWith : List UInt8 → List UInt8 → Option Bool
  | [], _ => some true
  | _ :: _, [] => none
  | c :: needle, b :: rest => if b = c then startsWith needle rest else some false

/-- `strstr(memory, needle)`. -/
def strstr (needle : List UInt8) : List UInt8 → Option (Option Nat)
  | [] => none
  | b :: rest =>
    match startsWith needle (b :: rest) with
    | none => none
    | some true => some (some 0)
    | some false =>
      if b = 0 then some none else (strstr needle rest).map fun found ↦ found.map (· + 1)

/-- `while (p > memory && p[-1] != stop) p--`. -/
def backTo (stop : UInt8) (memory : List UInt8) : Nat → Option Nat
  | 0 => some 0
  | position + 1 =>
    match memory[position]? with
    | none => none
    | some b => if b = stop then some (position + 1) else backTo stop memory position

/-! ### Scans of terminated strings stay inside -/

/-- A byte is looked for no further than the NUL. -/
theorem findByte_terminated (h : 0 ∈ memory) :
    ∃ found, findByte c memory = some found ∧ ∀ offset ∈ found, offset < memory.length := by
  induction memory with
  | nil => cases h
  | cons b rest ih =>
    by_cases hb : b = c
    · exact ⟨some 0, by simp [findByte, hb], by simp⟩
    by_cases hz : b = 0
    · exact ⟨none, by rw [findByte, if_neg hb, if_pos hz], nofun⟩
    have hrest : 0 ∈ rest := (List.mem_cons.mp h).resolve_left (Ne.symm hz)
    obtain ⟨found, hfound, hlt⟩ := ih hrest
    refine ⟨found.map (· + 1), by simp [findByte, hb, hz, hfound], ?_⟩
    intro offset hoffset
    obtain ⟨i, hi, rfl⟩ := Option.mem_map.mp hoffset
    exact Nat.succ_lt_succ (hlt i hi)

theorem strchr_terminated {start : Nat} (h : 0 ∈ memory.drop start) :
    ∃ found, strchr memory start c = some found ∧
      ∀ position ∈ found, start ≤ position ∧ position < memory.length := by
  obtain ⟨found, hfound, hlt⟩ := findByte_terminated (c := c) h
  refine ⟨found.map (start + ·), by rw [strchr, hfound]; rfl, ?_⟩
  intro position hposition
  obtain ⟨offset, hoffset, rfl⟩ := Option.mem_map.mp hposition
  have hin := hlt offset hoffset
  rw [List.length_drop] at hin
  omega

/-- A needle without NUL is compared no further than the NUL, which lies behind a match. -/
theorem startsWith_terminated (hn : 0 ∉ needle) (h : 0 ∈ memory) :
    ∃ matched, startsWith needle memory = some matched ∧
      (matched = true → 0 ∈ memory.drop needle.length) := by
  induction needle generalizing memory with
  | nil => exact ⟨true, by simp [startsWith], fun _ ↦ h⟩
  | cons c needle ih =>
    cases memory with
    | nil => cases h
    | cons b rest =>
      obtain ⟨hc, hn⟩ := not_or.mp (mt List.mem_cons.mpr hn)
      by_cases hb : b = c
      · have hrest : 0 ∈ rest := (List.mem_cons.mp h).resolve_left (hb ▸ hc)
        obtain ⟨matched, hmatched, hbehind⟩ := ih hn hrest
        exact ⟨matched, by simp [startsWith, hb, hmatched], hbehind⟩
      · exact ⟨false, by simp [startsWith, hb], nofun⟩

/-- A needle without NUL is looked for no further than the NUL, which lies behind it. -/
theorem strstr_terminated (needle : List UInt8) (hn : 0 ∉ needle) (h : 0 ∈ memory) :
    ∃ found, strstr needle memory = some found ∧
      ∀ position ∈ found, 0 ∈ memory.drop (position + needle.length) := by
  induction memory with
  | nil => cases h
  | cons b rest ih =>
    obtain ⟨matched, hmatched, hbehind⟩ := startsWith_terminated hn h
    cases matched with
    | true =>
      refine ⟨some 0, by simp [strstr, hmatched], ?_⟩
      simpa using hbehind rfl
    | false =>
      by_cases hz : b = 0
      · exact ⟨none, by rw [strstr, hmatched]; exact if_pos hz, nofun⟩
      have hrest : 0 ∈ rest := (List.mem_cons.mp h).resolve_left (Ne.symm hz)
      obtain ⟨found, hfound, hin⟩ := ih hrest
      refine ⟨found.map (· + 1), by simp [strstr, hmatched, hz, hfound], ?_⟩
      intro position hposition
      obtain ⟨i, hi, rfl⟩ := Option.mem_map.mp hposition
      rw [Nat.add_right_comm, List.drop_succ_cons]
      exact hin i hi

/-- Going back from inside an object stays inside. -/
theorem backTo_of_le (stop : UInt8) {start : Nat} (h : start ≤ memory.length) :
    ∃ position, backTo stop memory start = some position ∧ position ≤ start := by
  induction start with
  | zero => exact ⟨0, rfl, le_rfl⟩
  | succ start ih =>
    have hget : memory[start]? = some memory[start] := List.getElem?_eq_getElem h
    by_cases hb : memory[start] = stop
    · exact ⟨start + 1, by simp [backTo, hget, hb], le_rfl⟩
    · obtain ⟨position, hback, hle⟩ := ih (by omega)
      exact ⟨position, by simp [backTo, hget, hb, hback], by omega⟩

/-! ### What scans find -/

/-- The first occurrence of a byte. -/
theorem findByte_append (hc : c ∉ before) (hz : 0 ∉ before) :
    findByte c (before ++ c :: rest) = some (some before.length) := by
  induction before with
  | nil => simp [findByte]
  | cons b before ih =>
    simp only [List.mem_cons, not_or] at hc hz
    simp [findByte, Ne.symm hc.1, Ne.symm hz.1, ih hc.2 hz.2]

/-- The first occurrence of a needle whose first byte does not occur before. -/
theorem strstr_append (hc : c ∉ before) (hz : 0 ∉ before) :
    strstr (c :: needle) (before ++ (c :: needle ++ rest)) = some (some before.length) := by
  induction before with
  | nil =>
    have hmatch : startsWith needle (needle ++ rest) = some true := by
      induction needle with
      | nil => simp [startsWith]
      | cons d needle ih => simp [startsWith, ih]
    simp [strstr, startsWith, hmatch]
  | cons b before ih =>
    simp only [List.mem_cons, not_or] at hc hz
    have htail := ih hc.2 hz.2
    simp only [List.cons_append] at htail
    simp [strstr, startsWith, Ne.symm hc.1, Ne.symm hz.1, htail]

/-- Going back stops behind the last occurrence. -/
theorem backTo_append (before rest : List UInt8) (h : stop ∉ between) :
    backTo stop (before ++ stop :: (between ++ rest)) (before.length + 1 + between.length) =
      some (before.length + 1) := by
  induction between using List.reverseRecOn generalizing rest with
  | nil => simp [backTo]
  | append_singleton between b ih =>
    have hb : b ≠ stop := by
      rintro rfl
      exact h (by simp)
    have hlen : before.length + 1 + (between ++ [b]).length =
        before.length + 1 + between.length + 1 := by simp; omega
    have hget : (before ++ stop :: (between ++ [b] ++ rest))[before.length + 1 + between.length]? =
        some b := by
      rw [List.getElem?_append_right (by omega)]
      simp [show before.length + 1 + between.length - before.length = between.length + 1 by omega]
    rw [hlen, backTo, hget]
    simp only [hb, ↓reduceIte, List.append_assoc]
    exact ih _ (fun hm ↦ h (List.mem_append_left _ hm))

end CMemory
end EdgeMonitor.Base
