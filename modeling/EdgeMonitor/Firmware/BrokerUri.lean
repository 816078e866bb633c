import EdgeMonitor.Firmware.CandidateRequest

/-!
# Broker URIs

Library `Firmware`. The language of `valid_mqtts_uri`,
`firmware/components/device_config/device_config.c:102–142`. The scanner looks for the last colon
and reads the port behind it; of the host it checks a few characters only, so that paths, queries
and fragments pass as parts of it.
-/

namespace EdgeMonitor.Firmware
open EdgeMonitor.Base
open DeviceConfig (ascii strchr strrchr strpbrk portNumber portSeparator validMqttsUri)

/-! ### Ports -/

/-- `[0-9]`. -/
def isDigit (b : UInt8) : Bool := 0x30 ≤ b && b ≤ 0x39

/-- The number that digits denote, behind those that gave the first argument. -/
def digitsValue (n : Nat) (text : List UInt8) : Nat :=
  text.foldl (fun n b ↦ n * 10 + (b.toNat - 0x30)) n

@[simp] theorem digitsValue_nil (n : Nat) : digitsValue n [] = n := rfl

theorem digitsValue_cons (n : Nat) (b : UInt8) (bs : List UInt8) :
    digitsValue n (b :: bs) = digitsValue (n * 10 + (b.toNat - 0x30)) bs := List.foldl_cons ..

/-- A port is a non-empty digit string of any length with a value from 1 to 65535. -/
def IsPort (text : List UInt8) : Prop :=
  text ≠ [] ∧ text.all isDigit = true ∧ 1 ≤ digitsValue 0 text ∧ digitsValue 0 text ≤ 65535

theorem le_digitsValue (n : Nat) (bs : List UInt8) : n ≤ digitsValue n bs := by
  induction bs generalizing n with
  | nil => exact Nat.le_refl n
  | cons b bs ih =>
    rw [digitsValue_cons]
    exact Nat.le_trans (by omega) (ih _)

/-- The digit loop computes the number, or refuses what is no port. -/
theorem portNumber_eq_some_iff {text : List UInt8} {port result : UInt32} (h : port ≤ 65535) :
    portNumber text port = some result ↔
      text.all isDigit = true ∧ digitsValue port.toNat text ≤ 65535 ∧
        result.toNat = digitsValue port.toNat text := by
  induction text generalizing port with
  | nil =>
    rw [portNumber, Option.some.injEq, digitsValue_nil]
    constructor
    · intro hsame
      subst hsame
      exact ⟨rfl, UInt32.le_iff_toNat_le.mp h, rfl⟩
    · intro hvalue
      exact (UInt32.toNat_inj.mp hvalue.2.2).symm
  | cons b bs ih =>
    rw [portNumber, digitsValue_cons, List.all_cons, Bool.and_eq_true]
    by_cases hdigit : b < 0x30 ∨ b > 0x39
    · rw [if_pos hdigit]
      refine iff_of_false (by simp) ?_
      intro hvalue
      have hb := hvalue.1.1
      simp only [isDigit, Bool.and_eq_true, decide_eq_true_eq] at hb
      exact hdigit.elim (fun hlt ↦ UInt8.not_lt.mpr hb.1 hlt) fun hgt ↦ UInt8.not_lt.mpr hb.2 hgt
    · rw [if_neg hdigit]
      rw [not_or, UInt8.not_lt, UInt8.not_lt] at hdigit
      have hb : isDigit b = true := by
        simp only [isDigit, Bool.and_eq_true, decide_eq_true_eq]
        exact hdigit
      have hlow : 0x30 ≤ b.toNat := UInt8.le_iff_toNat_le.mp hdigit.1
      have hhigh : b.toNat ≤ 0x39 := UInt8.le_iff_toNat_le.mp hdigit.2
      by_cases hlarge : port > 6553
      · -- the next digit makes the number too large
        rw [if_pos hlarge]
        refine iff_of_false (by simp) ?_
        intro hvalue
        have hport : 6553 < port.toNat := UInt32.lt_iff_toNat_lt.mp hlarge
        have hle := le_digitsValue (port.toNat * 10 + (b.toNat - 0x30)) bs
        omega
      · rw [if_neg hlarge]
        rw [UInt32.not_lt] at hlarge
        have hport : port.toNat ≤ 6553 := UInt32.le_iff_toNat_le.mp hlarge
        have hnext : (port * 10 + (b - 0x30).toUInt32).toNat = port.toNat * 10 + (b.toNat - 0x30) := by
          rw [UInt32.toNat_add, UInt32.toNat_mul, UInt8.toNat_toUInt32,
            UInt8.toNat_sub_of_le _ _ hdigit.1]
          change (port.toNat * 10 % 2 ^ 32 + (b.toNat - 0x30)) % 2 ^ 32 = _
          omega
        by_cases hfits : port * 10 + (b - 0x30).toUInt32 > 65535
        · rw [if_pos hfits]
          refine iff_of_false (by simp) ?_
          intro hvalue
          have hover : 65535 < (port * 10 + (b - 0x30).toUInt32).toNat :=
            UInt32.lt_iff_toNat_lt.mp hfits
          have hle := le_digitsValue (port.toNat * 10 + (b.toNat - 0x30)) bs
          omega
        · rw [if_neg hfits, ih (UInt32.not_lt.mp hfits), hnext, and_iff_right hb]

/-- What is read behind the separator is a port. -/
theorem isPort_iff {text : List UInt8} :
    IsPort text ↔ text ≠ [] ∧ ∃ port, portNumber text 0 = some port ∧ port > 0 := by
  have hzero : (0 : UInt32).toNat = 0 := rfl
  refine and_congr_right fun _ ↦ ?_
  constructor
  · rintro ⟨hdigits, hpos, hle⟩
    refine ⟨.ofNat (digitsValue 0 text), ?_, ?_⟩
    · rw [portNumber_eq_some_iff (by decide), hzero]
      refine ⟨hdigits, hle, ?_⟩
      rw [UInt32.toNat_ofNat']
      omega
    · apply UInt32.lt_iff_toNat_lt.mpr
      rw [UInt32.toNat_ofNat', hzero]
      omega
  · rintro ⟨port, hport, hpos⟩
    rw [portNumber_eq_some_iff (by decide), hzero] at hport
    have hpos := UInt32.lt_iff_toNat_lt.mp hpos
    rw [hzero] at hpos
    exact ⟨hport.1, by omega, hport.2.1⟩

/-! ### Hosts -/

/-- The characters that the scanner refuses anywhere behind the scheme. -/
def refusedInHost : List UInt8 := [0x40, 0x20, 0x09, 0x0D, 0x0A]

/-- What the scanner accepts in front of the colon of the port: it begins with no bracket, or is
one pair of brackets that is not empty. -/
def ScannedHost (host : List UInt8) : Prop :=
  host ≠ [] ∧ (∀ b ∈ host, b ∉ refusedInHost) ∧
    (host.headD 0 = 0x5B → ∃ inner, inner ≠ [] ∧ 0x5D ∉ inner ∧ host = 0x5B :: (inner ++ [0x5D]))

/-- A split at the last colon. -/
theorem strrchr_append {s rest : List UInt8} {c : UInt8} (h : c ∉ rest) :
    strrchr (s ++ c :: rest) c = some s.length := by
  have hreverse : (s ++ c :: rest).reverse = rest.reverse ++ c :: s.reverse := by simp
  have hnone : ∀ b ∈ rest.reverse, (b == c) = false := by
    intro b hb
    apply beq_eq_false_iff_ne.mpr
    intro hsame
    exact h (hsame ▸ List.mem_reverse.mp hb)
  rw [strrchr, hreverse, List.findIdx?_append, List.findIdx?_eq_none_iff.mpr hnone]
  simp [List.findIdx?_cons]

theorem exists_of_strrchr {s : List UInt8} {c : UInt8} {i : Nat} (h : strrchr s c = some i) :
    ∃ before after, s = before ++ c :: after ∧ before.length = i ∧ c ∉ after := by
  have hmem : c ∈ s.reverse := by
    by_contra hnot
    have hnone : s.reverse.findIdx? (· == c) = none := by
      apply List.findIdx?_eq_none_iff.mpr
      intro b hb
      apply beq_eq_false_iff_ne.mpr
      intro hsame
      exact hnot (hsame ▸ hb)
    rw [strrchr, hnone] at h
    cases h
  obtain ⟨after, before, hs, hafter⟩ := List.eq_append_cons_of_mem hmem
  have hsplit : s = before.reverse ++ c :: after.reverse := by
    rw [← List.reverse_reverse s, hs]
    simp
  have hnot : c ∉ after.reverse := fun hc ↦ hafter (List.mem_reverse.mp hc)
  refine ⟨before.reverse, after.reverse, hsplit, ?_, hnot⟩
  rw [hsplit, strrchr_append hnot, Option.some.injEq] at h
  exact h

/-- A split at the first closing bracket. -/
theorem strchr_append {s rest : List UInt8} {c : UInt8} (h : c ∉ s) :
    strchr (s ++ c :: rest) c = some s.length := by
  have hnone : ∀ b ∈ s, (b == c) = false := by
    intro b hb
    apply beq_eq_false_iff_ne.mpr
    intro hsame
    exact h (hsame ▸ hb)
  rw [strchr, List.findIdx?_append, List.findIdx?_eq_none_iff.mpr hnone]
  simp [List.findIdx?_cons]

theorem exists_of_strchr {s : List UInt8} {c : UInt8} {i : Nat} (h : strchr s c = some i) :
    ∃ before after, s = before ++ c :: after ∧ before.length = i ∧ c ∉ before := by
  have hmem : c ∈ s := by
    by_contra hnot
    have hnone : s.findIdx? (· == c) = none := by
      apply List.findIdx?_eq_none_iff.mpr
      intro b hb
      apply beq_eq_false_iff_ne.mpr
      intro hsame
      exact hnot (hsame ▸ hb)
    rw [strchr, hnone] at h
    cases h
  obtain ⟨before, after, rfl, hbefore⟩ := List.eq_append_cons_of_mem hmem
  refine ⟨before, after, rfl, ?_, hbefore⟩
  rw [strchr_append hbefore, Option.some.injEq] at h
  exact h

/-! ### The scanner -/

/-- The scanner's view of the authority: a host, a colon and the text of the port. -/
theorem portSeparator_eq_some {authority : List UInt8} {separator : Nat}
    (h : portSeparator authority = some separator) (hrefused : ∀ b ∈ authority, b ∉ refusedInHost)
    (hport : IsPort (authority.drop (separator + 1))) :
    ∃ host port, authority = host ++ 0x3A :: port ∧ ScannedHost host ∧ IsPort port := by
  rw [portSeparator] at h
  split at h
  next hopen =>
    split at h
    next => cases h
    next closing hclosing =>
      split at h
      next => cases h
      next hafter =>
        obtain rfl := Option.some.inj h
        obtain ⟨before, after, rfl, rfl, hbefore⟩ := exists_of_strchr hclosing
        rw [not_or, not_not] at hafter
        -- the bracket that opens is not the one that closes
        obtain ⟨inner, rfl⟩ : ∃ inner, before = 0x5B :: inner := by
          cases before with
          | nil => exact absurd hopen (show ¬ (0x5D : UInt8) = 0x5B by decide)
          | cons b inner => exact ⟨inner, by rw [show b = 0x5B from hopen]⟩
        obtain ⟨port, rfl⟩ : ∃ port, after = 0x3A :: port := by
          have hcolon := hafter.2
          rw [List.getD_append_right _ _ _ _ (by omega)] at hcolon
          cases after with
          | nil => simp at hcolon
          | cons b port => exact ⟨port, by simpa using hcolon⟩
        have hinner : inner ≠ [] := by
          rintro rfl
          exact hafter.1 rfl
        refine ⟨0x5B :: (inner ++ [0x5D]), port, by simp, ⟨List.cons_ne_nil _ _, ?_, ?_⟩, ?_⟩
        · intro b hb
          exact hrefused b (by simp at hb ⊢; tauto)
        · intro _
          exact ⟨inner, hinner, fun hmem ↦ hbefore (List.mem_cons_of_mem _ hmem), rfl⟩
        · simpa using hport
  next hopen =>
    split at h
    next => cases h
    next separator' hseparator =>
      split at h
      next => cases h
      next hzero =>
        obtain rfl := Option.some.inj h
        obtain ⟨host, port, rfl, rfl, -⟩ := exists_of_strrchr hseparator
        have hne : host ≠ [] := by
          rintro rfl
          exact hzero rfl
        refine ⟨host, port, rfl, ⟨hne, ?_, ?_⟩, by simpa using hport⟩
        · intro b hb
          exact hrefused b (List.mem_append_left _ hb)
        · intro hhead
          refine absurd ?_ hopen
          obtain ⟨b, rest, rfl⟩ := List.exists_cons_of_ne_nil hne
          exact hhead

theorem colon_not_mem {port : List UInt8} (h : IsPort port) : 0x3A ∉ port := by
  intro hmem
  have hdigit := List.all_eq_true.mp h.2.1 _ hmem
  exact absurd hdigit (by decide)

theorem portSeparator_append {host port : List UInt8} (hhost : ScannedHost host)
    (hport : IsPort port) : portSeparator (host ++ 0x3A :: port) = some host.length := by
  obtain ⟨hne, -, hbracket⟩ := hhost
  by_cases hopen : host.headD 0 = 0x5B
  · obtain ⟨inner, hinner, hnot, rfl⟩ := hbracket hopen
    have hclose : 0x5D ∉ 0x5B :: inner := by
      intro hmem
      rcases List.mem_cons.mp hmem with hsame | hmem
      · exact absurd hsame (by decide)
      · exact hnot hmem
    have hsplit : 0x5B :: (inner ++ [0x5D]) ++ 0x3A :: port =
        (0x5B :: inner) ++ 0x5D :: (0x3A :: port) := by simp
    have hlength : inner.length ≠ 0 := fun hzero ↦ hinner (List.length_eq_zero_iff.mp hzero)
    have hhead : (0x5B :: (inner ++ [0x5D]) ++ 0x3A :: port).headD 0 = 0x5B := rfl
    rw [portSeparator, if_pos hhead, hsplit, strchr_append hclose]
    simp only [List.length_cons]
    rw [if_neg]
    · simp
    · rw [not_or, not_not]
      refine ⟨by omega, ?_⟩
      rw [List.getD_append_right _ _ _ _ (by simp)]
      simp
  · have hhead : (host ++ 0x3A :: port).headD 0 ≠ 0x5B := by
      obtain ⟨b, rest, rfl⟩ := List.exists_cons_of_ne_nil hne
      exact hopen
    rw [portSeparator, if_neg hhead, strrchr_append (colon_not_mem hport)]
    exact if_neg fun hzero ↦ hne (List.length_eq_zero_iff.mp hzero)

/-- The language of the scanner. -/
theorem validMqttsUri_iff {value : List UInt8} : validMqttsUri value = true ↔
    ∃ host port, value = ascii "mqtts://" ++ host ++ 0x3A :: port ∧ ScannedHost host ∧
      IsPort port := by
  constructor
  · intro h
    rw [validMqttsUri] at h
    split at h
    next => cases h
    next haccepted =>
      simp only [not_or, not_not] at haccepted
      obtain ⟨hscheme, -, hat, hspace⟩ := haccepted
      have hvalue : value = ascii "mqtts://" ++ value.drop 8 := by
        rw [← hscheme, List.take_append_drop]
      have hrefused : ∀ b ∈ value.drop 8, b ∉ refusedInHost := by
        intro b hb hmem
        rcases List.mem_cons.mp hmem with rfl | hmem
        · apply hat
          obtain ⟨before, after, hsplit, hbefore⟩ := List.eq_append_cons_of_mem hb
          rw [hsplit, strchr_append hbefore]
          rfl
        · apply hspace
          rw [strpbrk, List.any_eq_true]
          exact ⟨b, List.mem_of_mem_drop hb, List.contains_iff_mem.mpr hmem⟩
      simp only at h
      split at h
      next => cases h
      next separator hseparator =>
        split at h
        next => cases h
        next hne =>
          split at h
          next => cases h
          next port hport =>
            have htext : IsPort ((value.drop 8).drop (separator + 1)) :=
              isPort_iff.mpr ⟨by simpa using hne, port, hport, of_decide_eq_true h⟩
            obtain ⟨host, text, hauthority, hhost, htext⟩ :=
              portSeparator_eq_some hseparator hrefused htext
            refine ⟨host, text, ?_, hhost, htext⟩
            rw [hvalue, hauthority, List.append_assoc]
  · rintro ⟨host, text, rfl, hhost, htext⟩
    obtain ⟨hne, port, hport, hpos⟩ := isPort_iff.mp htext
    have hdrop : (ascii "mqtts://" ++ host ++ 0x3A :: text).drop 8 = host ++ 0x3A :: text := by
      rw [List.append_assoc]
      rfl
    have htake : (ascii "mqtts://" ++ host ++ 0x3A :: text).take 8 = ascii "mqtts://" := by
      rw [List.append_assoc]
      rfl
    have hclean : ∀ b ∈ host ++ 0x3A :: text, b ∉ refusedInHost := by
      have hcolon : (0x3A : UInt8) ∉ refusedInHost := by decide +kernel
      have hdigits : ∀ b ∈ refusedInHost, isDigit b = false := by decide +kernel
      intro b hb hmem
      rcases List.mem_append.mp hb with hb | hb
      · exact hhost.2.1 b hb hmem
      · rcases List.mem_cons.mp hb with rfl | hb
        · exact hcolon hmem
        · have hdigit := List.all_eq_true.mp htext.2.1 b hb
          rw [hdigits b hmem] at hdigit
          cases hdigit
    have hat : strchr (host ++ 0x3A :: text) 0x40 = none := by
      rw [strchr, List.findIdx?_eq_none_iff]
      intro b hb
      apply beq_eq_false_iff_ne.mpr
      rintro rfl
      exact hclean _ hb List.mem_cons_self
    have hspace : strpbrk (ascii "mqtts://" ++ host ++ 0x3A :: text) [0x20, 0x09, 0x0D, 0x0A] =
        false := by
      have hscheme : ∀ b ∈ ascii "mqtts://", b ∉ [0x20, 0x09, 0x0D, 0x0A] := by decide +kernel
      rw [List.append_assoc, strpbrk, List.any_eq_false]
      intro b hb hmem
      rw [List.contains_iff_mem] at hmem
      rcases List.mem_append.mp hb with hb | hb
      · exact hscheme b hb hmem
      · exact hclean b hb (List.mem_cons_of_mem _ hmem)
    have hlength : (ascii "mqtts://" ++ host ++ 0x3A :: text).length ≠ 8 := by
      have hscheme : (ascii "mqtts://").length = 8 := rfl
      simp only [List.length_append, List.length_cons, hscheme]
      omega
    have hbehind : (host ++ 0x3A :: text).drop (host.length + 1) = text := by
      simp [List.drop_append]
    have hempty : text.isEmpty = false := List.isEmpty_eq_false_iff.mpr hne
    rw [validMqttsUri, if_neg]
    · simp only [hdrop, portSeparator_append hhost htext, hbehind, hempty, hport, decide_eq_true hpos,
        Bool.false_eq_true, if_false]
    · rw [htake, hdrop, hat, hspace, not_or, not_or, not_or]
      exact ⟨fun hne ↦ hne rfl, hlength, by simp, by simp⟩

/-! ### URIs of hosts and ports -/

/-- The characters that end a host in a URI, and white space. -/
def hostSeparators : List UInt8 :=
  ascii "/?#@[]" ++ [0x20, 0x09, 0x0A, 0x0B, 0x0C, 0x0D]

/-- A host without separators, or a bracketed address, which may have colons. -/
def IsBrokerHost (host : List UInt8) : Prop :=
  host ≠ [] ∧ (∀ b ∈ host, b ∉ hostSeparators ∧ b ≠ 0x3A) ∨
    ∃ inner, inner ≠ [] ∧ (∀ b ∈ inner, b ∉ hostSeparators) ∧ host = 0x5B :: (inner ++ [0x5D])

/-- `mqtts://`, a host, a colon and a port. -/
def IsBrokerUri (value : List UInt8) : Prop :=
  ∃ host port, value = ascii "mqtts://" ++ host ++ 0x3A :: port ∧ IsBrokerHost host ∧ IsPort port

/-- The separators that the scanner does not look for. -/
def overlookedSeparators : List UInt8 := ascii "/?#" ++ [0x0B, 0x0C]

/-- A host in which the scanner overlooks no separator: outside of brackets neither a colon nor a
bracket, inside of them no second one that opens. -/
def NothingOverlooked (host : List UInt8) : Prop :=
  if host.headD 0 = 0x5B then ∀ b ∈ host.tail, b ∉ overlookedSeparators ∧ b ≠ 0x5B
  else ∀ b ∈ host, b ∉ overlookedSeparators ∧ b ∉ ascii ":[]"

theorem mem_hostSeparators_iff {b : UInt8} :
    b ∈ hostSeparators ↔ b ∈ refusedInHost ∨ b ∈ overlookedSeparators ∨ b = 0x5B ∨ b = 0x5D := by
  have hleft : ∀ b ∈ hostSeparators,
      b ∈ refusedInHost ∨ b ∈ overlookedSeparators ∨ b = 0x5B ∨ b = 0x5D := by decide +kernel
  have hright : ∀ b ∈ refusedInHost ++ overlookedSeparators ++ [0x5B, 0x5D], b ∈ hostSeparators := by
    decide +kernel
  refine ⟨hleft b, fun hb ↦ hright b ?_⟩
  simp only [List.mem_append, List.mem_cons, List.not_mem_nil, or_false]
  exact or_assoc.mpr hb

theorem not_mem_hostSeparators_iff {b : UInt8} : b ∉ hostSeparators ↔
    b ∉ refusedInHost ∧ b ∉ overlookedSeparators ∧ b ≠ 0x5B ∧ b ≠ 0x5D := by
  rw [mem_hostSeparators_iff, not_or, not_or, not_or]

/-- A host of the scanner is one of a URI exactly if it overlooks no separator. -/
theorem ScannedHost.isBrokerHost_iff {host : List UInt8} (h : ScannedHost host) :
    IsBrokerHost host ↔ NothingOverlooked host := by
  obtain ⟨hne, hrefused, hbracket⟩ := h
  rw [NothingOverlooked]
  by_cases hopen : host.headD 0 = 0x5B
  · obtain ⟨inner, hinner, hclose, rfl⟩ := hbracket hopen
    rw [if_pos hopen]
    constructor
    · rintro (⟨-, hplain⟩ | ⟨inner', -, hclean, hsame⟩)
      · refine absurd (mem_hostSeparators_iff.mpr ?_) (hplain _ List.mem_cons_self).1
        exact .inr (.inr (.inl rfl))
      · obtain rfl := List.append_cancel_right (List.cons.inj hsame).2
        have hclosing : (0x5D : UInt8) ∉ overlookedSeparators ∧ (0x5D : UInt8) ≠ 0x5B := by
          decide +kernel
        intro b hb
        rcases List.mem_append.mp hb with hb | hb
        · obtain ⟨-, hover, hopening, -⟩ := not_mem_hostSeparators_iff.mp (hclean b hb)
          exact ⟨hover, hopening⟩
        · rw [List.mem_singleton.mp hb]
          exact hclosing
    · intro hclean
      refine .inr ⟨inner, hinner, ?_, rfl⟩
      intro b hb
      obtain ⟨hover, hopening⟩ := hclean b (List.mem_append_left _ hb)
      have hrefuse := hrefused b (List.mem_cons_of_mem _ (List.mem_append_left _ hb))
      have hend : b ≠ 0x5D := fun hsame ↦ hclose (hsame ▸ hb)
      exact not_mem_hostSeparators_iff.mpr ⟨hrefuse, hover, hopening, hend⟩
  · rw [if_neg hopen]
    have hothers : ∀ b ∈ ascii ":[]", b = 0x3A ∨ b = 0x5B ∨ b = 0x5D := by decide +kernel
    have hcolon : (0x3A : UInt8) ∈ ascii ":[]" := by decide +kernel
    have hbrackets : (0x5B : UInt8) ∈ ascii ":[]" ∧ (0x5D : UInt8) ∈ ascii ":[]" := by decide +kernel
    constructor
    · rintro (⟨-, hplain⟩ | ⟨inner, -, -, rfl⟩)
      · intro b hb
        obtain ⟨hseparator, hcolon⟩ := hplain b hb
        obtain ⟨-, hover, hopening, hclosing⟩ := not_mem_hostSeparators_iff.mp hseparator
        refine ⟨hover, fun hmem ↦ ?_⟩
        rcases hothers b hmem with hsame | hsame | hsame
        · exact hcolon hsame
        · exact hopening hsame
        · exact hclosing hsame
      · exact absurd rfl hopen
    · intro hclean
      refine .inl ⟨hne, ?_⟩
      intro b hb
      obtain ⟨hover, hother⟩ := hclean b hb
      have hnot {b' : UInt8} (hmem : b' ∈ ascii ":[]") : b ≠ b' := fun hsame ↦ hother (hsame ▸ hmem)
      exact ⟨not_mem_hostSeparators_iff.mpr ⟨hrefused b hb, hover, hnot hbrackets.1,
        hnot hbrackets.2⟩, hnot hcolon⟩

/-- A host of a URI is one that the scanner accepts. -/
theorem IsBrokerHost.scanned {host : List UInt8} (h : IsBrokerHost host) : ScannedHost host := by
  rcases h with ⟨hne, hplain⟩ | ⟨inner, hinner, hclean, rfl⟩
  · refine ⟨hne, fun b hb hmem ↦ ?_, fun hopen ↦ ?_⟩
    · exact (hplain b hb).1 (mem_hostSeparators_iff.mpr (.inl hmem))
    · obtain ⟨b, rest, rfl⟩ := List.exists_cons_of_ne_nil hne
      obtain rfl : b = 0x5B := hopen
      refine absurd (mem_hostSeparators_iff.mpr ?_) (hplain _ List.mem_cons_self).1
      exact .inr (.inr (.inl rfl))
  · have hbrackets : (0x5B : UInt8) ∉ refusedInHost ∧ (0x5D : UInt8) ∉ refusedInHost := by
      decide +kernel
    refine ⟨List.cons_ne_nil _ _, fun b hb ↦ ?_, fun _ ↦ ⟨inner, hinner, fun hmem ↦ ?_, rfl⟩⟩
    · simp only [List.mem_cons, List.mem_append, List.not_mem_nil, or_false] at hb
      rcases hb with rfl | hb | rfl
      · exact hbrackets.1
      · exact fun hmem ↦ hclean b hb (mem_hostSeparators_iff.mpr (.inl hmem))
      · exact hbrackets.2
    · exact hclean _ hmem (mem_hostSeparators_iff.mpr (.inr (.inr (.inr rfl))))

/-- A URI has one host and one port. -/
theorem host_unique {host host' port port' : List UInt8} (hport : IsPort port)
    (hport' : IsPort port')
    (h : ascii "mqtts://" ++ host ++ 0x3A :: port = ascii "mqtts://" ++ host' ++ 0x3A :: port') :
    host = host' := by
  rw [List.append_assoc, List.append_assoc] at h
  have hsame := List.append_cancel_left h
  have hlength : host.length = host'.length := by
    have hlast := congrArg (strrchr · 0x3A) hsame
    simp only [strrchr_append (colon_not_mem hport), strrchr_append (colon_not_mem hport')] at hlast
    exact Option.some.inj hlast
  exact (List.append_inj hsame hlength).1

/-- The validator accepts exactly the URIs of a host and a port, unless it overlooks a separator in
what stands before the port. -/
theorem broker_uri_exact (value : CString) :
    (validMqttsUri value.val = true ↔ IsBrokerUri value.val) ↔
      ∀ host port, value.val = ascii "mqtts://" ++ host ++ 0x3A :: port → ScannedHost host →
        IsPort port → NothingOverlooked host := by
  constructor
  · intro hexact host port hvalue hhost hport
    obtain ⟨host', port', hvalue', hhost', hport'⟩ :=
      hexact.mp (validMqttsUri_iff.mpr ⟨host, port, hvalue, hhost, hport⟩)
    obtain rfl := host_unique hport hport' (hvalue.symm.trans hvalue')
    exact hhost.isBrokerHost_iff.mp hhost'
  · intro hclean
    constructor
    · intro hvalid
      obtain ⟨host, port, hvalue, hhost, hport⟩ := validMqttsUri_iff.mp hvalid
      exact ⟨host, port, hvalue,
        hhost.isBrokerHost_iff.mpr (hclean host port hvalue hhost hport), hport⟩
    · rintro ⟨host, port, hvalue, hhost, hport⟩
      exact validMqttsUri_iff.mpr ⟨host, port, hvalue, hhost.scanned, hport⟩

/-- A URI with a path. -/
def samplePathUri : CString := ⟨ascii "mqtts://broker/path:8883", by decide +kernel⟩

/-- A path passes as part of the host. -/
theorem broker_uri_exact_fails :
    ¬ ∀ value : CString, validMqttsUri value.val = true ↔ IsBrokerUri value.val := by
  intro h
  have hvalid : validMqttsUri samplePathUri.val = true := by decide +kernel
  obtain ⟨host, port, hvalue, hhost, hport⟩ := (h samplePathUri).mp hvalid
  have hsplit : samplePathUri.val = ascii "mqtts://" ++ ascii "broker/path" ++ 0x3A :: ascii "8883" := by
    decide +kernel
  have hdigits : IsPort (ascii "8883") :=
    ⟨by decide, by decide +kernel, by decide +kernel, by decide +kernel⟩
  obtain rfl := host_unique hport hdigits (hvalue.symm.trans hsplit)
  have hover := hhost.scanned.isBrokerHost_iff.mp hhost
  rw [NothingOverlooked, if_neg (by decide +kernel)] at hover
  have hslash : (0x2F : UInt8) ∈ ascii "broker/path" ∧ (0x2F : UInt8) ∈ overlookedSeparators := by
    decide +kernel
  exact (hover _ hslash.1).1 hslash.2

end EdgeMonitor.Firmware
