import EdgeMonitor.Base.CMemory
import EdgeMonitor.Firmware.ConfigOperations
import EdgeMonitor.Firmware.DiagnosticRing

/-!
# The diagnostic log sink

Library `Firmware`. The sink of `firmware/components/diagnostic_log/diagnostic_log.c`, which
stores each log line in the ring and takes its level and component from the line. An access
outside of an array makes the functions return `none`.
-/

namespace EdgeMonitor.Firmware
open EdgeMonitor.Base
open DeviceConfig (ascii)

/-! ### Parsing -/

/-- `DIAGNOSTIC_LOG_MESSAGE_MAX`. -/
abbrev diagnosticLogMessageMax : Nat := 159

/-- `DIAGNOSTIC_LOG_COMPONENT_MAX`. -/
abbrev diagnosticLogComponentMax : Nat := 23

/-- The level letters of ESP-IDF. -/
def levelLetters : List UInt8 := ascii "EWIDV"

theorem levelLetters_eq : levelLetters = [0x45, 0x57, 0x49, 0x44, 0x56] := rfl

namespace CharArray

variable {n : Nat}

/-- `memcpy(array, source, length)`. -/
def memcpy (array : CharArray n) (source : List UInt8) (length : Nat) : Option (CharArray n) :=
  if length ≤ n ∧ length ≤ source.length then
    some ((Layout.array n).decode (source.take length ++ array.toList.drop length))
  else none

/-- `array[position] = b`. -/
def store (array : CharArray n) (position : Nat) (b : UInt8) : Option (CharArray n) :=
  if h : position < n then some (array.set position b h) else none

/-- A copy that is terminated behind its last byte. -/
theorem toList_memcpy_store (array : CharArray n) {source : List UInt8} {length : Nat}
    (hn : length < n) (hs : length ≤ source.length) :
    ∃ copied stored, array.memcpy source length = some copied ∧
      copied.store length 0 = some stored ∧
      stored.toList = source.take length ++ 0 :: array.toList.drop (length + 1) := by
  have hlen : (source.take length ++ array.toList.drop length).length = n := by
    simp only [List.length_append, List.length_take, List.length_drop, Vector.length_toList]
    omega
  have hcopy : ((Layout.array n).decode (source.take length ++ array.toList.drop length)).toList =
      source.take length ++ array.toList.drop length :=
    (Layout.array n).encode_decode _ hlen
  have hin : length < array.toList.length := by simpa using hn
  let copied := (Layout.array n).decode (source.take length ++ array.toList.drop length)
  refine ⟨copied, copied.set length 0 hn, if_pos ⟨hn.le, hs⟩, dif_pos hn, ?_⟩
  · rw [Vector.toList_set, hcopy, List.set_append_right _ _ (by simp),
      List.drop_eq_getElem_cons hin, List.length_take, Nat.min_eq_left hs, Nat.sub_self]
    rfl

/-- A text longer than the array is stored like its first bytes. -/
theorem snprintf_take (array : CharArray n) (text : List UInt8) :
    array.snprintf (text.take (n - 1)) = array.snprintf text := by
  have hmin : min (min (n - 1) text.length) (n - 1) = min text.length (n - 1) := by omega
  simp only [snprintf, List.take_take, Nat.min_self, List.length_take, hmin]

/-- A stored text starts with what fits of it and its NUL. -/
theorem toList_snprintf_take (array : CharArray (n + 1)) (text : List UInt8) :
    ∃ behind, (array.snprintf text).toList = text.take n ++ 0 :: behind := by
  have hlen : (text.take n).length < n + 1 := by
    rw [List.length_take]
    omega
  refine ⟨array.toList.drop ((text.take n).length + 1), ?_⟩
  rw [← snprintf_take array text, Nat.add_sub_cancel, toList_snprintf array hlen]
  simp

end CharArray

/-- `parse_prefix`, `diagnostic_log.c:16–43`. -/
def parsePrefix (record : DiagnosticRecord) : Option DiagnosticRecord := do
  let record :=
    { record with level := 0x3F, component := record.component.snprintf (ascii "esp-idf") }
  let cursor := record.message.toList
  match ← CMemory.strstr (ascii ") ") cursor with
  | none => return record
  | some level =>
    if (← cursor[level + 2]?) = 0 then return record
    else
      let tagStart := level + 2
      match ← CMemory.strchr cursor tagStart 0x3A with
      | none => return record
      | some colon =>
        if colon > tagStart then
          let candidate ← CMemory.backTo 0x20 cursor level
          let letter ← cursor[candidate]?
          let record := if letter ∈ levelLetters then { record with level := letter } else record
          let length := min (colon - tagStart) diagnosticLogComponentMax
          let component ← record.component.memcpy (cursor.drop tagStart) length
          let component ← component.store length 0
          return { record with component }
        else return record

/-- The record that `diagnostic_vprintf` makes of the formatted line, `diagnostic_log.c:54–60`. -/
def diagnosticRecord (formatted : List UInt8) (timeUs : Int) : Option DiagnosticRecord :=
  parsePrefix
    { DiagnosticRecord.zero with
      message := DiagnosticRecord.zero.message.snprintf formatted
      relativeMs := UInt64.ofInt (timeUs.tdiv 1000) }

/-- `diagnostic_vprintf` after the serial output, `diagnostic_log.c:45–66`. -/
def diagnosticVprintf (ring : DiagnosticRing) (formatted : List UInt8) (timeUs : Int) :
    Option DiagnosticRing :=
  (diagnosticRecord formatted timeUs).map fun record ↦ (ring.push record).2

/-! ### Memory safety -/

theorem nul_mem_snprintf {n : Nat} (array : CharArray (n + 1)) (text : List UInt8) :
    0 ∈ (array.snprintf text).toList := by
  obtain ⟨behind, h⟩ := CharArray.toList_snprintf_take array text
  rw [h]
  exact List.mem_append_right _ List.mem_cons_self

/-- The byte at a position in front of a NUL can be read. -/
private theorem exists_of_nul_mem_drop {memory : List UInt8} {position : Nat}
    (h : 0 ∈ memory.drop position) : ∃ b, memory[position]? = some b := by
  have hne : (memory.drop position).length ≠ 0 := by
    intro hz
    rw [List.eq_nil_of_length_eq_zero hz] at h
    cases h
  rw [List.length_drop] at hne
  exact ⟨_, List.getElem?_eq_getElem (by omega)⟩

/-- What parsing makes of a message with a tag between the closing parenthesis and a colon. -/
theorem parsePrefix_of_tag {record : DiagnosticRecord} {level colon candidate : Nat}
    {after letter : UInt8} (hlevel : CMemory.strstr (ascii ") ") record.message.toList = some (some level))
    (hafter : record.message.toList[level + 2]? = some after) (hne : after ≠ 0)
    (hcolon : CMemory.strchr record.message.toList (level + 2) 0x3A = some (some colon))
    (htag : level + 2 < colon) (hin : colon < record.message.toList.length)
    (hback : CMemory.backTo 0x20 record.message.toList level = some candidate)
    (hletter : record.message.toList[candidate]? = some letter) :
    ∃ parsed behind, parsePrefix record = some parsed ∧
      parsed.level = (if letter ∈ levelLetters then letter else 0x3F) ∧
      parsed.component.toList = (record.message.toList.drop (level + 2)).take
        (min (colon - (level + 2)) diagnosticLogComponentMax) ++ 0 :: behind := by
  have hroom : min (colon - (level + 2)) diagnosticLogComponentMax < 24 :=
    Nat.lt_succ_of_le (Nat.min_le_right _ _)
  have hsource : min (colon - (level + 2)) diagnosticLogComponentMax ≤
      (record.message.toList.drop (level + 2)).length := by
    rw [List.length_drop]
    omega
  obtain ⟨copied, component, hcopy, hstore, hlist⟩ :=
    CharArray.toList_memcpy_store (record.component.snprintf (ascii "esp-idf")) hroom hsource
  by_cases hl : letter ∈ levelLetters
  · refine ⟨{ record with level := letter, component }, _, ?_, by rw [if_pos hl], hlist⟩
    simp only [parsePrefix, hlevel, hafter, hcolon, hback, hletter, hcopy, hstore,
      Option.bind_eq_bind, Option.bind_some, if_neg hne, if_pos htag, hl, ↓reduceIte]
    rfl
  · refine ⟨{ record with level := 0x3F, component }, _, ?_, by rw [if_neg hl], hlist⟩
    simp only [parsePrefix, hlevel, hafter, hcolon, hback, hletter, hcopy, hstore,
      Option.bind_eq_bind, Option.bind_some, if_neg hne, if_pos htag, hl, ↓reduceIte]
    rfl

/-- Parsing stays inside the message and the component of every record whose message is
terminated. -/
theorem parsePrefix_isSome (record : DiagnosticRecord) (h : 0 ∈ record.message.toList) :
    ∃ parsed, parsePrefix record = some parsed := by
  obtain ⟨found, hfound, hbehind⟩ := CMemory.strstr_terminated
    (ascii ") ") (by decide) h
  cases found with
  | none => exact ⟨_, by rw [parsePrefix, hfound]; rfl⟩
  | some level =>
    have hlevel : 0 ∈ record.message.toList.drop (level + 2) := hbehind level rfl
    obtain ⟨after, hafter⟩ := exists_of_nul_mem_drop hlevel
    obtain ⟨found, hcolon, hbounds⟩ := CMemory.strchr_terminated (c := 0x3A) hlevel
    by_cases hne : after = 0
    · exact ⟨_, by
        simp only [parsePrefix, hfound, hafter, Option.bind_eq_bind, Option.bind_some, if_pos hne]
        rfl⟩
    cases found with
    | none => exact ⟨_, by
        simp only [parsePrefix, hfound, hafter, hcolon, Option.bind_eq_bind, Option.bind_some,
          if_neg hne]
        rfl⟩
    | some colon =>
      obtain ⟨hle, hin⟩ := hbounds colon rfl
      by_cases htag : level + 2 < colon
      · obtain ⟨candidate, hback, hcandidate⟩ := CMemory.backTo_of_le 0x20
          (show level ≤ record.message.toList.length by omega)
        have hletter := List.getElem?_eq_getElem
          (show candidate < record.message.toList.length by omega)
        obtain ⟨parsed, -, hparsed, -⟩ :=
          parsePrefix_of_tag hfound hafter hne hcolon htag hin hback hletter
        exact ⟨parsed, hparsed⟩
      · exact ⟨_, by
          simp only [parsePrefix, hfound, hafter, hcolon, Option.bind_eq_bind, Option.bind_some,
            if_neg hne, if_neg htag]
          rfl⟩

/-- Every line that is logged becomes a record. -/
theorem diagnosticRecord_isSome (formatted : List UInt8) (timeUs : Int) :
    ∃ record, diagnosticRecord formatted timeUs = some record :=
  parsePrefix_isSome _ (nul_mem_snprintf _ formatted)

/-! ### Lines of ESP-IDF -/

/-- A log line `L (ts) tag: text`. -/
structure LogLine where
  letter : UInt8
  timestamp : List UInt8
  tag : List UInt8
  text : List UInt8
  letter_mem : letter ∈ levelLetters
  timestamp_ne_nil : timestamp ≠ []
  digits : ∀ d ∈ timestamp, 0x30 ≤ d ∧ d ≤ 0x39
  tag_ne_nil : tag ≠ []
  nul_not_mem : 0 ∉ tag
  colon_not_mem : 0x3A ∉ tag
  closing_not_mem : ¬ ascii ") " <:+: tag

namespace LogLine

variable (line : LogLine)

/-- The line up to its colon. -/
def header : List UInt8 :=
  [line.letter, 0x20, 0x28] ++ line.timestamp ++ [0x29, 0x20] ++ line.tag ++ [0x3A]

/-- The whole line. -/
def bytes : List UInt8 := line.header ++ 0x20 :: line.text

/-- The parsed record has the level and the component of the line. -/
def Classified (record : DiagnosticRecord) : Prop :=
  ∃ parsed, parsePrefix record = some parsed ∧ parsed.level = line.letter ∧
    parsed.component.toCString = line.tag.take diagnosticLogComponentMax

/-- Neither a NUL nor a closing parenthesis introduces the timestamp or is in it. -/
private theorem introduction_ne {b : UInt8}
    (h : b ∈ [line.letter, 0x20, 0x28] ++ line.timestamp) : b ≠ 0 ∧ b ≠ 0x29 := by
  have hletters : ∀ l ∈ levelLetters, l ≠ 0 ∧ l ≠ 0x29 := by
    simp [levelLetters_eq]
  rcases List.mem_append.mp h with h | h
  · simp only [List.mem_cons, List.not_mem_nil, or_false] at h
    rcases h with rfl | rfl | rfl
    · exact hletters _ line.letter_mem
    · decide
    · decide
  · obtain ⟨hlow, -⟩ := line.digits b h
    constructor
    · rintro rfl
      exact absurd hlow (by decide)
    · rintro rfl
      exact absurd hlow (by decide)

/-- What a stored line holds, if its colon is not cut off. -/
private theorem toList_stored (array : CharArray 160)
    (hfits : line.header.length ≤ diagnosticLogMessageMax) :
    ∃ behind, (array.snprintf line.bytes).toList = line.header ++ behind := by
  obtain ⟨behind, h⟩ := CharArray.toList_snprintf_take array line.bytes
  refine ⟨(0x20 :: line.text).take (159 - line.header.length) ++ 0 :: behind, ?_⟩
  have htake : line.header.take 159 = line.header := List.take_of_length_le hfits
  rw [h, bytes, List.take_append, htake, List.append_assoc]

/-- Parsing finds the component of a stored line, but takes the opening parenthesis for its
level and leaves the level unknown. -/
theorem parsed (array : CharArray 160) (record : DiagnosticRecord)
    (hstored : record.message = array.snprintf line.bytes)
    (hfits : line.header.length ≤ diagnosticLogMessageMax) :
    ∃ parsed, parsePrefix record = some parsed ∧ parsed.level = 0x3F ∧
      parsed.component.toCString = line.tag.take diagnosticLogComponentMax := by
  obtain ⟨behind, hmessage⟩ := line.toList_stored array hfits
  rw [← hstored] at hmessage
  obtain ⟨t, tag, htag⟩ := List.exists_cons_of_ne_nil line.tag_ne_nil
  let before := [line.letter, 0x20, 0x28] ++ line.timestamp
  let level := before.length
  have hintro : 0x29 ∉ before ∧ 0 ∉ before :=
    ⟨fun h ↦ (line.introduction_ne h).2 rfl, fun h ↦ (line.introduction_ne h).1 rfl⟩
  have hsplit : record.message.toList =
      before ++ (0x29 :: [0x20] ++ (line.tag ++ 0x3A :: behind)) := by
    rw [hmessage, header]
    simp [before]
  have hdrop : record.message.toList.drop (level + 2) = line.tag ++ 0x3A :: behind := by
    rw [hsplit, show level + 2 = before.length + 2 from rfl, List.drop_append]
    simp
  have hlevel : CMemory.strstr (ascii ") ") record.message.toList = some (some level) := by
    rw [hsplit]
    exact CMemory.strstr_append hintro.1 hintro.2
  have hafter : record.message.toList[level + 2]? = some t := by
    rw [← List.head?_drop, hdrop, htag]
    rfl
  have hne : t ≠ 0 := by
    rintro rfl
    exact line.nul_not_mem (htag ▸ List.mem_cons_self)
  have hcolon : CMemory.strchr record.message.toList (level + 2) 0x3A =
      some (some (level + 2 + line.tag.length)) := by
    rw [CMemory.strchr, hdrop, CMemory.findByte_append line.colon_not_mem line.nul_not_mem]
    rfl
  have hback : CMemory.backTo 0x20 record.message.toList level = some 2 := by
    have h28 : (0x20 : UInt8) ∉ 0x28 :: line.timestamp := by
      intro h
      rcases List.mem_cons.mp h with h | h
      · exact absurd h (by decide)
      · exact absurd (line.digits _ h).1 (by decide)
    have hlevel' : level = [line.letter].length + 1 + (0x28 :: line.timestamp).length := by
      simp [level, before]
      omega
    have h := CMemory.backTo_append [line.letter]
      (0x29 :: [0x20] ++ (line.tag ++ 0x3A :: behind)) h28
    rw [hsplit, hlevel']
    simpa [before] using h
  have hletter : record.message.toList[2]? = some 0x28 := by
    rw [hsplit]
    rfl
  have hin : level + 2 + line.tag.length < record.message.toList.length := by
    have hlength := congrArg List.length hdrop
    simp only [List.length_drop, List.length_append, List.length_cons] at hlength
    omega
  obtain ⟨parsed, tail, hparsed, hunknown, hcomponent⟩ := parsePrefix_of_tag hlevel hafter hne
    hcolon (by simp [htag]) hin hback hletter
  refine ⟨parsed, hparsed, hunknown.trans (if_neg (by decide)), ?_⟩
  have hmin : min (level + 2 + line.tag.length - (level + 2)) diagnosticLogComponentMax =
      min diagnosticLogComponentMax line.tag.length := by
    rw [Nat.add_sub_cancel_left, Nat.min_comm]
  have htake : (line.tag ++ 0x3A :: behind).take
      (min diagnosticLogComponentMax line.tag.length) =
        line.tag.take diagnosticLogComponentMax := by
    rw [List.take_append_of_le_length (Nat.min_le_right _ _), ← List.take_eq_take_min]
  rw [CharArray.toCString, hcomponent, hdrop, hmin, htake, List.takeWhile_append_of_pos]
  · simp
  · intro b hb
    rw [decide_eq_true_eq]
    rintro rfl
    exact line.nul_not_mem (List.mem_of_mem_take hb)

end LogLine

/-- No line `L (ts) tag: text` whose colon is stored is classified: parsing finds its
component but not its level. Parsing and logging stay inside the arrays for every message. -/
theorem log_lines_not_classified (line : LogLine) (array : CharArray 160)
    (record : DiagnosticRecord) (hfits : line.header.length ≤ diagnosticLogMessageMax)
    (hstored : record.message = array.snprintf line.bytes) :
    (¬ line.Classified record ∧
      ∃ parsed, parsePrefix record = some parsed ∧ parsed.level = 0x3F ∧
        parsed.component.toCString = line.tag.take diagnosticLogComponentMax) ∧
    (∀ record : DiagnosticRecord, 0 ∈ record.message.toList →
      ∃ parsed, parsePrefix record = some parsed) ∧
    ∀ formatted timeUs, ∃ record, diagnosticRecord formatted timeUs = some record := by
  refine ⟨?_, parsePrefix_isSome, diagnosticRecord_isSome⟩
  obtain ⟨parsed, hparsed, hlevel, hcomponent⟩ := line.parsed array record hstored hfits
  refine ⟨?_, parsed, hparsed, hlevel, hcomponent⟩
  rintro ⟨parsed', hparsed', hlevel', -⟩
  obtain rfl := Option.some.inj (hparsed.symm.trans hparsed')
  have hletter := line.letter_mem
  rw [← hlevel', hlevel] at hletter
  exact absurd hletter (by decide)

/-- The line `E (1) a: ` of an error. -/
def sampleLogLine : LogLine where
  letter := 0x45
  timestamp := [0x31]
  tag := [0x61]
  text := []
  letter_mem := by simp [levelLetters_eq]
  timestamp_ne_nil := by simp
  digits := by simp
  tag_ne_nil := by simp
  nul_not_mem := by simp
  colon_not_mem := by simp
  closing_not_mem := fun h ↦ absurd h.length_le (by decide)

/-- The record of the sample line before parsing. -/
def sampleLogRecord : DiagnosticRecord :=
  { DiagnosticRecord.zero with
    message := DiagnosticRecord.zero.message.snprintf sampleLogLine.bytes }

private theorem message_sampleLogRecord :
    sampleLogRecord.message = DiagnosticRecord.zero.message.snprintf sampleLogLine.bytes := by
  simp only [sampleLogRecord]

/-- The error of the sample line is not recognised. -/
theorem log_lines_classified_fails : ¬ sampleLogLine.Classified sampleLogRecord := by
  obtain ⟨parsed, hparsed, hlevel, -⟩ := sampleLogLine.parsed DiagnosticRecord.zero.message
    sampleLogRecord message_sampleLogRecord (by decide)
  rintro ⟨parsed', hparsed', hlevel', -⟩
  obtain rfl := Option.some.inj (hparsed.symm.trans hparsed')
  rw [hlevel] at hlevel'
  exact absurd hlevel' (by decide)

/-- The error of the sample line has its component but no level. -/
theorem log_lines_not_classified_sample : ¬ sampleLogLine.Classified sampleLogRecord ∧
    ∃ parsed, parsePrefix sampleLogRecord = some parsed ∧ parsed.level = 0x3F ∧
      parsed.component.toCString = sampleLogLine.tag.take diagnosticLogComponentMax :=
  (log_lines_not_classified sampleLogLine DiagnosticRecord.zero.message sampleLogRecord (by decide)
    message_sampleLogRecord).1

end EdgeMonitor.Firmware
