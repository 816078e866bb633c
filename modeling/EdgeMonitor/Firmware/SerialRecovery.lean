import EdgeMonitor.Base.LineReading
import EdgeMonitor.Firmware.ConfigValidate

/-!
# Serial recovery

Library `Firmware`. The console task of
`firmware/components/serial_recovery/serial_recovery.c`, which erases the NVS partition on a
command. The task compares the pieces in which `fgets` returns the lines of the console, so that
a piece of a line can pass for a line.
-/

namespace EdgeMonitor.Firmware
open EdgeMonitor.Base
open EdgeMonitor.Base.LineReading

namespace SerialRecovery
open DeviceConfig (ascii)

/-! ### The task -/

/-- The command, `serial_recovery.c:25`. -/
def recoveryCommand : List UInt8 := ascii "factory-reset ERASE-DEVICE-CONFIGURATION"

/-- `'\r'`. -/
def carriageReturn : UInt8 := 0x0D

/-- The bytes before the first NUL. -/
def cString (memory : List UInt8) : List UInt8 := memory.takeWhile (· ≠ 0)

/-- `strcspn(memory, reject)`. -/
def strcspn (memory reject : List UInt8) : Nat :=
  ((cString memory).takeWhile (· ∉ reject)).length

/-- What is compared of a piece of a line, `serial_recovery.c:24`. -/
def cutLine (line : List UInt8) : List UInt8 :=
  let buffer := line ++ [0]
  cString (buffer.set (strcspn buffer [carriageReturn, lineFeed]) 0)

/-- `recovery_task`, `serial_recovery.c:15–40`: how many bytes were read before each line that
made it call `device_config_storage_recover`, given what these calls return. An arrival is what
can be read before the console is found empty. After a successful call the device restarts. -/
def recoveryTask (recover : Nat → EspErr) (calls consumed : Nat) : List (List UInt8) → List Nat
  | [] => []
  | arrived :: arrivals =>
    match _hline : fgets 96 arrived with
    | none => recoveryTask recover calls consumed arrivals
    | some (line, rest) =>
      if cutLine line ≠ recoveryCommand then
        recoveryTask recover calls (consumed + line.length) (rest :: arrivals)
      else if recover calls ≠ .ok then
        consumed :: recoveryTask recover (calls + 1) (consumed + line.length) (rest :: arrivals)
      else [consumed]
termination_by arrivals => arrivals.flatten.length + arrivals.length
decreasing_by
  all_goals
    simp only [List.flatten_cons, List.length_append, List.length_cons]
  · omega
  · have := length_lt_of_fgets _hline
    omega
  · have := length_lt_of_fgets _hline
    omega

/-! ### Lines of a stream -/

/-- Nothing, or bytes that end with a line feed, come before a line. -/
def AtLineStart (before : List UInt8) : Prop := before = [] ∨ before.getLast? = some lineFeed

/-- A complete line of a stream, without its line feed, and what comes before it. -/
def IsLine (stream before line : List UInt8) : Prop :=
  AtLineStart before ∧ lineFeed ∉ line ∧ ∃ after, stream = before ++ line ++ lineFeed :: after

/-- A line without the carriage returns and line feeds at its end. -/
def stripEnd (line : List UInt8) : List UInt8 :=
  line.rdropWhile fun b ↦ b = carriageReturn || b = lineFeed

/-- A complete line consists of the command. -/
def Commanded (stream : List UInt8) : Prop :=
  ∃ before line, IsLine stream before line ∧ stripEnd line = recoveryCommand

/-- The task erases exactly on the command: it calls the recovery if and only if a complete line
is the command, and whenever it does, the line that it is reading is. -/
def ErasesOnCommand (stream : List UInt8) (calls : List Nat) : Prop :=
  (calls ≠ [] ↔ Commanded stream) ∧
    ∀ position ∈ calls, ∃ before line, IsLine stream before line ∧
      before.length ≤ position ∧ position ≤ before.length + line.length ∧
      stripEnd line = recoveryCommand

/-! ### Pieces that read as the command -/

/-- A byte in front of which the comparison does not end. -/
def isText (b : UInt8) : Bool := b ≠ 0 && b ≠ carriageReturn && b ≠ lineFeed

/-- At this position a piece of a line begins, and the bytes up to a NUL, the end of the line or
a pause are the command. -/
def ReadsCommand (arrivals : List (List UInt8)) (position : Nat) : Prop :=
  ∃ earlier before found later, arrivals = earlier ++ (before ++ found) :: later ∧
    column before % 95 = 0 ∧ found.takeWhile isText = recoveryCommand ∧
    position = earlier.flatten.length + before.length

theorem ne_zero_of_isText {b : UInt8} (h : isText b = true) : b ≠ 0 := by
  intro hb
  subst hb
  cases h

theorem strcspn_append (line : List UInt8) :
    strcspn (line ++ [0]) [carriageReturn, lineFeed] = (line.takeWhile isText).length := by
  induction line with
  | nil => rfl
  | cons b line ih =>
    by_cases hb : b = 0
    · subst hb
      rfl
    · have hread : cString (b :: line ++ [0]) = b :: cString (line ++ [0]) :=
        List.takeWhile_cons_of_pos (by simpa using hb)
      rw [strcspn, hread]
      by_cases htext : isText b = true
      · have hne : b ∉ [carriageReturn, lineFeed] := by
          simpa [isText, hb] using htext
        rw [List.takeWhile_cons_of_pos htext, List.takeWhile_cons_of_pos (by simpa using hne)]
        exact congrArg (· + 1) ih
      · have hmem : b ∈ [carriageReturn, lineFeed] := by
          by_contra hmem
          exact htext (by simpa [isText, hb] using hmem)
        rw [List.takeWhile_cons_of_neg htext,
          List.takeWhile_cons_of_neg (by simpa [or_iff_not_imp_left] using hmem)]

/-- The comparison is with the bytes in front of the first NUL, CR or LF. -/
theorem cutLine_eq (line : List UInt8) : cutLine line = line.takeWhile isText := by
  have hbuffer : line ++ [0] = line.takeWhile isText ++ (line.dropWhile isText ++ [0]) := by
    rw [← List.append_assoc, List.takeWhile_append_dropWhile]
  have hne : line.dropWhile isText ++ [0] ≠ [] := by simp
  obtain ⟨b, rest, hrest⟩ := List.exists_cons_of_ne_nil hne
  have htext : ∀ b ∈ line.takeWhile isText, (decide (b ≠ 0)) = true := by
    intro b hb
    exact decide_eq_true (ne_zero_of_isText (List.mem_takeWhile_imp hb))
  rw [cutLine, strcspn_append, hbuffer, hrest, List.set_append_right _ _ (Nat.le_refl _),
    Nat.sub_self, List.set_cons_zero, cString, List.takeWhile_append_of_pos htext,
    List.takeWhile_cons_of_neg (by simp), List.append_nil]

/-- An arrival that has been read to its end has no piece left. -/
theorem readsCommand_nil_cons {arrivals : List (List UInt8)} {position : Nat} :
    ReadsCommand ([] :: arrivals) position ↔ ReadsCommand arrivals position := by
  constructor
  · rintro ⟨earlier, before, found, later, harrivals, hcolumn, hfound, hposition⟩
    cases earlier with
    | nil =>
      have hnil := List.append_eq_nil_iff.mp (List.cons.inj harrivals).1.symm
      rw [hnil.2] at hfound
      cases hfound
    | cons arrived earlier =>
      obtain ⟨hnil, harrivals⟩ := List.cons.inj harrivals
      rw [← hnil] at hposition
      exact ⟨earlier, before, found, later, harrivals, hcolumn, hfound, hposition⟩
  · rintro ⟨earlier, before, found, later, harrivals, hcolumn, hfound, hposition⟩
    exact ⟨[] :: earlier, before, found, later, congrArg _ harrivals, hcolumn, hfound, hposition⟩

/-- The pieces that read as the command are the line that is read and those behind it. -/
theorem readsCommand_cons_iff {arrived line rest : List UInt8} {arrivals : List (List UInt8)}
    {position : Nat} (h : fgets 96 arrived = some (line, rest)) :
    ReadsCommand (arrived :: arrivals) position ↔
      position = 0 ∧ cutLine line = recoveryCommand ∨
        ∃ behind, position = line.length + behind ∧ ReadsCommand (rest :: arrivals) behind := by
  obtain ⟨hread, hne⟩ := fgets_eq_some h
  have harrived := readLine_append 95 arrived
  have hlength := length_readLine_le 95 arrived
  have hcut : cutLine line = recoveryCommand ↔ arrived.takeWhile isText = recoveryCommand := by
    have hwhole : (readLine (96 - 1) arrived).1.takeWhile isText = recoveryCommand ↔
        arrived.takeWhile isText = recoveryCommand :=
      takeWhile_readLine_iff (by decide) (by decide)
    rw [cutLine_eq, ← hwhole, hread]
  have hcolumn : rest ≠ [] → ∀ before, column (line ++ before) % 95 = column before % 95 := by
    have hcolumn := @column_readLine_append 95 arrived
    rwa [hread] at hcolumn
  have hstart {before after : List UInt8} (hline : before ++ after = line) (hafter : after ≠ []) :
      column before = before.length := by
    have hpiece : before ++ after = (readLine 95 arrived).1 := by rw [hline, hread]
    exact column_eq_length (lineFeed_notMem hpiece hafter)
  rw [hread] at harrived hlength
  rw [hcut]
  constructor
  · rintro ⟨earlier, before, found, later, harrivals, hresumes, hfound, hposition⟩
    cases earlier with
    | nil =>
      obtain ⟨hsplit, hlater⟩ := List.cons.inj harrivals
      subst hlater
      by_cases hbefore : before = []
      · left
        subst hbefore
        exact ⟨hposition, by rwa [hsplit]⟩
      · right
        rw [← harrived] at hsplit
        have hbehind : ∃ behind, before = line ++ behind ∧ rest = behind ++ found := by
          cases List.append_eq_append_iff.mp hsplit with
          | inl h => exact h
          | inr h =>
            obtain ⟨after, hline, hafter⟩ := h
            by_cases hnil : after = []
            · subst hnil
              exact ⟨[], by simpa using hline.symm, by simpa using hafter.symm⟩
            · -- no piece begins inside of the line
              exfalso
              rw [hstart hline.symm hnil] at hresumes
              have hpos := List.length_pos_of_ne_nil hbefore
              have hbehind := List.length_pos_of_ne_nil hnil
              rw [hline, List.length_append] at hlength
              omega
        obtain ⟨behind, rfl, rfl⟩ := hbehind
        have hrest : behind ++ found ≠ [] := by
          intro hnil
          rw [(List.append_eq_nil_iff.mp hnil).2] at hfound
          cases hfound
        refine ⟨behind.length, ?_, [], behind, found, arrivals, rfl, ?_, hfound, ?_⟩
        · rw [hposition, List.length_append]
          exact Nat.zero_add _
        · rw [← hcolumn hrest, hresumes]
        · exact (Nat.zero_add _).symm
    | cons first earlier =>
      obtain ⟨hfirst, htail⟩ := List.cons.inj harrivals
      subst hfirst
      right
      refine ⟨(rest :: earlier).flatten.length + before.length, ?_,
        rest :: earlier, before, found, later, congrArg _ htail, hresumes, hfound, rfl⟩
      rw [hposition, ← harrived]
      simp only [List.flatten_cons, List.length_append]
      omega
  · rintro (⟨hposition, hfound⟩ |
      ⟨behind, hposition, earlier, before, found, later, harrivals, hresumes, hfound, hbehind⟩)
    · exact ⟨[], [], arrived, arrivals, rfl, rfl, hfound, hposition⟩
    · cases earlier with
      | nil =>
        obtain ⟨hsplit, hlater⟩ := List.cons.inj harrivals
        subst hlater
        have hrest : rest ≠ [] := by
          intro hnil
          rw [hnil] at hsplit
          rw [(List.append_eq_nil_iff.mp hsplit.symm).2] at hfound
          cases hfound
        refine ⟨[], line ++ before, found, arrivals, ?_, ?_, hfound, ?_⟩
        · rw [← harrived, hsplit, List.append_assoc]
          rfl
        · rw [hcolumn hrest, hresumes]
        · rw [hposition, hbehind, List.length_append]
          simp
      | cons first earlier =>
        obtain ⟨hfirst, htail⟩ := List.cons.inj harrivals
        subst hfirst
        refine ⟨arrived :: earlier, before, found, later, congrArg _ htail, hresumes, hfound, ?_⟩
        rw [hposition, hbehind, ← harrived]
        simp only [List.flatten_cons, List.length_append]
        omega

/-! ### Calls -/

/-- The task calls the recovery for pieces that read as the command only. -/
theorem readsCommand_of_mem {recover : Nat → EspErr} {calls consumed position : Nat}
    {arrivals : List (List UInt8)}
    (h : position ∈ recoveryTask recover calls consumed arrivals) :
    ∃ behind, position = consumed + behind ∧ ReadsCommand arrivals behind := by
  fun_induction recoveryTask recover calls consumed arrivals with
  | case1 => cases h
  | case2 calls consumed arrived arrivals hline ih =>
    obtain ⟨behind, hposition, hreads⟩ := ih h
    rw [(fgets_eq_none_iff (by decide)).mp hline]
    exact ⟨behind, hposition, readsCommand_nil_cons.mpr hreads⟩
  | case3 calls consumed arrived arrivals line rest hline hother ih =>
    obtain ⟨behind, hposition, hreads⟩ := ih h
    refine ⟨line.length + behind, by omega, (readsCommand_cons_iff hline).mpr (.inr ?_)⟩
    exact ⟨behind, rfl, hreads⟩
  | case4 calls consumed arrived arrivals line rest hline hcommand hfailed ih =>
    rw [not_not] at hcommand
    cases List.mem_cons.mp h with
    | inl h => exact ⟨0, h, (readsCommand_cons_iff hline).mpr (.inl ⟨rfl, hcommand⟩)⟩
    | inr h =>
      obtain ⟨behind, hposition, hreads⟩ := ih h
      refine ⟨line.length + behind, by omega, (readsCommand_cons_iff hline).mpr (.inr ?_)⟩
      exact ⟨behind, rfl, hreads⟩
  | case5 calls consumed arrived arrivals line rest hline hcommand hrestart =>
    rw [not_not] at hcommand
    exact ⟨0, List.mem_singleton.mp h, (readsCommand_cons_iff hline).mpr (.inl ⟨rfl, hcommand⟩)⟩

/-- A piece that reads as the command makes the task call the recovery, there or before. -/
theorem calls_ne_nil (recover : Nat → EspErr) (calls consumed : Nat) {position : Nat}
    {arrivals : List (List UInt8)} (h : ReadsCommand arrivals position) :
    recoveryTask recover calls consumed arrivals ≠ [] := by
  fun_induction recoveryTask recover calls consumed arrivals generalizing position with
  | case1 =>
    obtain ⟨earlier, before, found, later, harrivals, -⟩ := h
    simp at harrivals
  | case2 calls consumed arrived arrivals hline ih =>
    rw [(fgets_eq_none_iff (by decide)).mp hline] at h
    exact ih (readsCommand_nil_cons.mp h)
  | case3 calls consumed arrived arrivals line rest hline hother ih =>
    cases (readsCommand_cons_iff hline).mp h with
    | inl h => exact absurd h.2 hother
    | inr h =>
      obtain ⟨behind, -, hreads⟩ := h
      exact ih hreads
  | case4 => exact List.cons_ne_nil _ _
  | case5 => exact List.cons_ne_nil _ _

/-- While the erase fails, every piece that reads as the command makes the task call it. -/
theorem mem_calls_of_failing {recover : Nat → EspErr} (hfail : ∀ n, recover n ≠ .ok)
    {calls consumed position : Nat} {arrivals : List (List UInt8)}
    (h : ReadsCommand arrivals position) :
    consumed + position ∈ recoveryTask recover calls consumed arrivals := by
  fun_induction recoveryTask recover calls consumed arrivals generalizing position with
  | case1 =>
    obtain ⟨earlier, before, found, later, harrivals, -⟩ := h
    simp at harrivals
  | case2 calls consumed arrived arrivals hline ih =>
    rw [(fgets_eq_none_iff (by decide)).mp hline] at h
    exact ih (readsCommand_nil_cons.mp h)
  | case3 calls consumed arrived arrivals line rest hline hother ih =>
    cases (readsCommand_cons_iff hline).mp h with
    | inl h => exact absurd h.2 hother
    | inr h =>
      obtain ⟨behind, hposition, hreads⟩ := h
      rw [hposition, ← Nat.add_assoc]
      exact ih hreads
  | case4 calls consumed arrived arrivals line rest hline hcommand hfailed ih =>
    cases (readsCommand_cons_iff hline).mp h with
    | inl h =>
      rw [h.1]
      exact List.mem_cons_self
    | inr h =>
      obtain ⟨behind, hposition, hreads⟩ := h
      rw [hposition, ← Nat.add_assoc]
      exact List.mem_cons_of_mem _ (ih hreads)
  | case5 calls consumed arrived arrivals line rest hline hcommand hrestart =>
    exact absurd (hfail calls) hrestart

/-! ### When the command alone erases -/

/-- The line that begins at a position consists of the command. -/
def CommandLineAt (stream : List UInt8) (position : Nat) : Prop :=
  ∃ before line, before.length = position ∧ IsLine stream before line ∧
    stripEnd line = recoveryCommand

/-- The text of the command at a position lies within one arrival. -/
def UnbrokenAt (arrivals : List (List UInt8)) (position : Nat) : Prop :=
  ∃ earlier before found later,
    arrivals = earlier ++ (before ++ (recoveryCommand ++ found)) :: later ∧
    position = earlier.flatten.length + before.length

/-- Every piece that reads as the command begins a line that is the command, and if there is
such a line, one of them comes without a pause in its text. -/
structure ReadAsSent (arrivals : List (List UInt8)) : Prop where
  whole : ∀ position, ReadsCommand arrivals position → CommandLineAt arrivals.flatten position
  unbroken : Commanded arrivals.flatten →
    ∃ position, UnbrokenAt arrivals position ∧ CommandLineAt arrivals.flatten position

theorem line_eq_of_stripEnd {line : List UInt8} (hline : lineFeed ∉ line)
    (h : stripEnd line = recoveryCommand) :
    ∃ ending, line = recoveryCommand ++ ending ∧ ∀ b ∈ ending, b = carriageReturn := by
  refine ⟨line.rtakeWhile fun b ↦ b = carriageReturn || b = lineFeed, ?_, ?_⟩
  · rw [← h, stripEnd, List.rdropWhile_append_rtakeWhile]
  · intro b hb
    have hend := List.mem_rtakeWhile_imp hb
    rw [Bool.or_eq_true, decide_eq_true_eq, decide_eq_true_eq] at hend
    refine hend.resolve_right ?_
    intro hfeed
    subst hfeed
    exact hline ((List.rtakeWhile_suffix _ line).subset hb)

theorem unbrokenAt_of_readsCommand {arrivals : List (List UInt8)} {position : Nat}
    (h : ReadsCommand arrivals position) : UnbrokenAt arrivals position := by
  obtain ⟨earlier, before, found, later, harrivals, -, hfound, hposition⟩ := h
  refine ⟨earlier, before, found.dropWhile isText, later, ?_, hposition⟩
  rw [harrivals, ← hfound, List.takeWhile_append_dropWhile]

/-- The stream around the text of a command that arrives without a pause. -/
theorem UnbrokenAt.stream {arrivals : List (List UInt8)} {position : Nat}
    (h : UnbrokenAt arrivals position) : ∃ before after,
      arrivals.flatten = before ++ (recoveryCommand ++ after) ∧ position = before.length := by
  obtain ⟨earlier, before, found, later, rfl, hposition⟩ := h
  refine ⟨earlier.flatten ++ before, found ++ later.flatten, by simp, ?_⟩
  rw [hposition, List.length_append]

/-- The command does not occur inside of a line that consists of it. -/
theorem eq_length_of_isLine {stream before line start after : List UInt8}
    (hline : IsLine stream before line) (hstrip : stripEnd line = recoveryCommand)
    (hstream : stream = start ++ (recoveryCommand ++ after))
    (hle : before.length ≤ start.length) (hin : start.length ≤ before.length + line.length) :
    before.length = start.length := by
  obtain ⟨-, hfeed, behind, hsplit⟩ := hline
  obtain ⟨ending, rfl, hending⟩ := line_eq_of_stripEnd hfeed hstrip
  by_contra hne
  obtain ⟨k, hk⟩ : ∃ k, start.length = before.length + (k + 1) :=
    ⟨start.length - before.length - 1, by omega⟩
  -- the byte where the text begins is a later byte of the line
  have hfirst : stream[start.length]? = some 0x66 := by
    rw [hstream, List.getElem?_append_right (Nat.le_refl _), Nat.sub_self]
    rfl
  have hlater : stream[start.length]? =
      (recoveryCommand.tail ++ ending ++ [lineFeed] ++ behind)[k]? := by
    have hcommand : recoveryCommand = 0x66 :: recoveryCommand.tail := rfl
    rw [hsplit, hk, List.append_assoc, List.getElem?_append_right (by omega),
      Nat.add_sub_cancel_left, hcommand]
    simp
  have hlength : k < (recoveryCommand.tail ++ ending ++ [lineFeed]).length := by
    have hcommand : recoveryCommand.length = recoveryCommand.tail.length + 1 := rfl
    simp only [List.length_append, List.length_singleton] at hin ⊢
    omega
  rw [hfirst, List.getElem?_append_left hlength] at hlater
  have hmem := List.mem_of_getElem? hlater.symm
  have htail : (0x66 : UInt8) ∉ recoveryCommand.tail := by decide +kernel
  simp only [List.mem_append, htail, false_or, List.mem_singleton] at hmem
  cases hmem with
  | inl h => exact absurd (hending _ h) (by decide)
  | inr h => exact absurd h (by decide)

/-- A command line whose text comes without a pause is read as the command. -/
theorem readsCommand_of_commandLineAt {arrivals : List (List UInt8)} {position : Nat}
    (h : UnbrokenAt arrivals position) (hline : CommandLineAt arrivals.flatten position) :
    ReadsCommand arrivals position := by
  obtain ⟨earlier, before, found, later, rfl, rfl⟩ := h
  obtain ⟨start, line, hlength, ⟨hstart, hfeed, behind, hsplit⟩, hstrip⟩ := hline
  obtain ⟨ending, rfl, hending⟩ := line_eq_of_stripEnd hfeed hstrip
  have hflatten : (earlier ++ (before ++ (recoveryCommand ++ found)) :: later).flatten =
      (earlier.flatten ++ before) ++ (recoveryCommand ++ (found ++ later.flatten)) := by simp
  rw [hflatten, List.append_assoc start, List.append_assoc recoveryCommand] at hsplit
  obtain ⟨rfl, hline⟩ := List.append_inj hsplit (by rw [hlength, List.length_append])
  have hbehind := List.append_cancel_left hline
  refine ⟨earlier, before, recoveryCommand ++ found, later, rfl, ?_, ?_, rfl⟩
  · -- the line begins with the arrival or within it
    rw [column_eq_zero]
    by_cases hbefore : before = []
    · exact Or.inl hbefore
    · right
      cases hstart with
      | inl h => exact absurd (List.append_eq_nil_iff.mp h).2 hbefore
      | inr h => rwa [List.getLast?_append_of_ne_nil _ hbefore] at h
  · have htext : ∀ b ∈ recoveryCommand, isText b = true := by decide +kernel
    have hend : found.takeWhile isText = [] := by
      cases found with
      | nil => rfl
      | cons b found =>
        apply List.takeWhile_cons_of_neg
        cases ending with
        | nil =>
          rw [(List.cons.inj hbehind).1]
          decide
        | cons c ending =>
          rw [(List.cons.inj hbehind).1, hending c List.mem_cons_self]
          decide
    rw [List.takeWhile_append_of_pos htext, hend, List.append_nil]

/-- The erase happens on the command and on nothing else, whatever the calls return, exactly if
the pieces that read as the command are lines, and some command line is read in one piece. -/
theorem erasesOnCommand_iff (arrivals : List (List UInt8)) :
    (∀ recover, ErasesOnCommand arrivals.flatten (recoveryTask recover 0 0 arrivals)) ↔
      ReadAsSent arrivals := by
  constructor
  · intro h
    have hfailing := h fun _ ↦ .fail
    have hwhole : ∀ position, ReadsCommand arrivals position →
        CommandLineAt arrivals.flatten position := by
      intro position hreads
      have hcall : 0 + position ∈ recoveryTask (fun _ ↦ .fail) 0 0 arrivals :=
        mem_calls_of_failing (by simp) hreads
      rw [Nat.zero_add] at hcall
      obtain ⟨before, line, hline, hle, hin, hstrip⟩ := hfailing.2 position hcall
      obtain ⟨start, after, hstream, rfl⟩ := (unbrokenAt_of_readsCommand hreads).stream
      exact ⟨before, line, eq_length_of_isLine hline hstrip hstream hle hin, hline, hstrip⟩
    refine ⟨hwhole, ?_⟩
    intro hcommanded
    obtain ⟨position, hcall⟩ := List.exists_mem_of_ne_nil _ (hfailing.1.mpr hcommanded)
    obtain ⟨behind, -, hreads⟩ := readsCommand_of_mem hcall
    exact ⟨behind, unbrokenAt_of_readsCommand hreads, hwhole behind hreads⟩
  · intro h recover
    have honly : ∀ position ∈ recoveryTask recover 0 0 arrivals,
        CommandLineAt arrivals.flatten position := by
      intro position hcall
      obtain ⟨behind, hposition, hreads⟩ := readsCommand_of_mem hcall
      rw [hposition, Nat.zero_add]
      exact h.whole behind hreads
    refine ⟨⟨?_, ?_⟩, ?_⟩
    · intro hcalls
      obtain ⟨position, hcall⟩ := List.exists_mem_of_ne_nil _ hcalls
      obtain ⟨before, line, -, hline, hstrip⟩ := honly position hcall
      exact ⟨before, line, hline, hstrip⟩
    · intro hcommanded
      obtain ⟨position, hunbroken, hline⟩ := h.unbroken hcommanded
      exact calls_ne_nil recover 0 0 (readsCommand_of_commandLineAt hunbroken hline)
    · intro position hcall
      obtain ⟨before, line, hlength, hline, hstrip⟩ := honly position hcall
      exact ⟨before, line, hline, by omega, by omega, hstrip⟩

/-- A line of 95 other bytes and the command behind them. -/
def sampleLongLine : List UInt8 := List.replicate 95 0x41 ++ recoveryCommand ++ [lineFeed]

theorem erasesOnCommand_fails : ¬ ∀ recover arrivals,
    ErasesOnCommand arrivals.flatten (recoveryTask recover 0 0 arrivals) := by
  intro h
  have hreads : ReadsCommand [sampleLongLine] 95 :=
    ⟨[], List.replicate 95 0x41, recoveryCommand ++ [lineFeed], [],
      by simp [sampleLongLine], by decide +kernel, by decide +kernel, rfl⟩
  have hcalls := calls_ne_nil (fun _ ↦ .ok) 0 0 hreads
  obtain ⟨before, line, ⟨hstart, hfeed, after, hsplit⟩, hstrip⟩ :=
    (h (fun _ ↦ .ok) [sampleLongLine]).1.mp hcalls
  have hcount : sampleLongLine.count lineFeed = 1 := by decide +kernel
  rw [List.flatten_singleton] at hsplit
  -- there is one line feed, and so one line
  have hbefore : before = [] := by
    cases hstart with
    | inl h => exact h
    | inr h =>
      obtain ⟨start, rfl⟩ := List.getLast?_eq_some_iff.mp h
      rw [hsplit] at hcount
      simp at hcount
      omega
  subst hbefore
  have hline : line = sampleLongLine.takeWhile (· ≠ lineFeed) := by
    rw [hsplit, List.nil_append, List.takeWhile_append_of_pos, List.takeWhile_cons_of_neg (by simp),
      List.append_nil]
    intro b hb
    exact decide_eq_true fun hsame ↦ hfeed (hsame ▸ hb)
  rw [hline] at hstrip
  exact absurd hstrip (by decide +kernel)

end SerialRecovery
end EdgeMonitor.Firmware
