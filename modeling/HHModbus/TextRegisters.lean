import HHModbus.SensorGroup
import HHModbus.Lib.Stripping

/-!
# Sensors of text registers

Serial numbers, models and firmware strings. What a sensor of several registers should show is
stated here in terms of the bytes, and compared with what `_convert_raw_value` makes of the words.
-/
namespace HHModbus

open Stripping

/-- What is stripped from a text: NUL, CR, LF and spaces. -/
def isBlank (c : Char) : Bool := c = Char.ofNat 0 ∨ c = '\r' ∨ c = '\n' ∨ c = ' '

/-- Byte `k` of the words, with the high byte of each word first. -/
def byteAt (words : List Nat) (k : Nat) : Nat :=
  if k % 2 = 0 then words.getD (k / 2) 0 / 256 else words.getD (k / 2) 0 % 256

/-- All bytes of the words that are ASCII. -/
def asciiChars (words : List Nat) : List Char :=
  (((List.range (2 * words.length)).map (byteAt words)).filter (· < 128)).map Char.ofNat

/-- The text is all of what the words spell, without the blanks around it. -/
def SpelledBy (words : List Nat) (text : String) : Prop :=
  Strips isBlank (asciiChars words) text.toList

/-- The words of a sensor: one for each register, of 16 bits. -/
structure BaseSensor.Reading (s : BaseSensor) (words : List Nat) : Prop where
  length : words.length = s.registrars.length
  bounded : ∀ w ∈ words, w < 65536

/-- The sensor shows the whole text of the words. -/
def BaseSensor.DecodesText (s : BaseSensor) (words : List Nat) : Prop :=
  ∃ text, s.convertValue words = some (.text text) ∧ SpelledBy words text

/-- Some readings that differ in register `i` alone are shown differently. -/
def BaseSensor.DependsOn (s : BaseSensor) (i : Nat) : Prop :=
  ∃ words w, s.Reading words ∧ s.Reading (words.set i w) ∧
    s.convertValue (words.set i w) ≠ s.convertValue words

/-! ### What `extract_serial_number` extracts -/

theorem byteAt_cons (w : Nat) (words : List Nat) (k : Nat) :
    byteAt (w :: words) (k + 2) = byteAt words k := by
  have half : (k + 2) / 2 = k / 2 + 1 := by omega
  rw [byteAt, byteAt, Nat.add_mod_right, half, List.getD_cons_succ]

theorem bytes_eq_flatMap (words : List Nat) (bounded : ∀ w ∈ words, w < 65536) :
    (List.range (2 * words.length)).map (byteAt words) =
      words.flatMap fun w => [w / 256 % 256, w % 256] := by
  induction words with
  | nil => rfl
  | cons w words ih =>
    have byte : w / 256 % 256 = w / 256 := by
      have := bounded w List.mem_cons_self
      omega
    have later := ih fun v member => bounded v (List.mem_cons_of_mem w member)
    -- The bytes of the first word, then those of the others.
    have shifted : (List.range (2 * (w :: words).length)).map (byteAt (w :: words)) =
        byteAt (w :: words) 0 :: byteAt (w :: words) 1 ::
          (List.range (2 * words.length)).map (byteAt words) := by
      have count : 2 * (w :: words).length = 2 * words.length + 1 + 1 := by
        rw [List.length_cons]
        omega
      rw [count, List.range_succ_eq_map, List.range_succ_eq_map]
      simp only [List.map_cons, List.map_map]
      exact congrArg (_ :: _ :: ·) (List.map_congr_left fun k _ => byteAt_cons w words k)
    rw [shifted, later, List.flatMap_cons, byte]
    rfl

theorem extractSerialNumber_toList {words : List Nat} (bounded : ∀ w ∈ words, w < 65536) :
    (extractSerialNumber words).toList = ((asciiChars words).dropWhile isBlank).rdropWhile isBlank := by
  rw [asciiChars, bytes_eq_flatMap words bounded]
  exact String.toList_ofList

/-- What is extracted is the text, and no other string is. -/
theorem spelledBy_iff {words : List Nat} (bounded : ∀ w ∈ words, w < 65536) (text : String) :
    SpelledBy words text ↔ text = extractSerialNumber words := by
  constructor
  · intro spelled
    rw [← String.toList_inj, extractSerialNumber_toList bounded]
    exact spelled.eq_drop
  · rintro rfl
    rw [SpelledBy, extractSerialNumber_toList bounded]
    exact strips_drop isBlank (asciiChars words)

/-! ### Which sensors show the text -/

variable {s : BaseSensor}

theorem BaseSensor.Reading.ne_nil {words : List Nat} (reading : s.Reading words) : words ≠ [] := by
  have positive := List.length_pos_of_ne_nil s.registrars_ne
  exact List.ne_nil_of_length_pos (reading.length ▸ positive)

theorem convertValue_long (long : 15 ≤ s.registrars.length) {words : List Nat}
    (reading : s.Reading words) :
    s.convertValue words = some (.text (extractSerialNumber words)) := by
  rw [BaseSensor.convertValue, convertRawValue, if_neg reading.ne_nil, if_pos long]

theorem convertValue_short (short : s.registrars.length < 15) (several : 1 < s.registrars.length)
    {words : List Nat} (reading : s.Reading words) :
    s.convertValue words = some (scaleValue (combineWords s.dataType words) s.multiplier) := by
  rw [BaseSensor.convertValue, convertRawValue, if_neg reading.ne_nil, if_neg (Nat.not_le.mpr short),
    if_pos several]

theorem scaleValue_ne_text (n : Int) (multiplier : ℚ) (text : String) :
    scaleValue n multiplier ≠ .text text := by
  unfold scaleValue
  split <;> simp

/-- Numbers are made of the first two words. -/
theorem combineWords_congr (dataType : Option DataType) {words words' : List Nat}
    (high : words.getD 0 0 = words'.getD 0 0) (low : words.getD 1 0 = words'.getD 1 0) :
    combineWords dataType words = combineWords dataType words' := by
  unfold combineWords
  simp only [combineU32, combineU32le, splitS32le, splitS32, high, low]

/-- Where every register but one holds NULs, the one shows. -/
theorem dependsOn_of_long (long : 15 ≤ s.registrars.length) {i : Nat}
    (bound : i < s.registrars.length) : s.DependsOn i := by
  let blank := List.replicate s.registrars.length 0
  have reading : s.Reading blank := by
    refine ⟨List.length_replicate, fun w member => ?_⟩
    rw [List.eq_of_mem_replicate member]
    decide
  have reading' : s.Reading (blank.set i 0x4141) := by
    refine ⟨by rw [List.length_set, reading.length], fun w member => ?_⟩
    rcases List.mem_or_eq_of_mem_set member with old | rfl
    · exact reading.bounded w old
    · decide
  refine ⟨blank, 0x4141, reading, reading', fun same => ?_⟩
  rw [convertValue_long long reading, convertValue_long long reading'] at same
  have texts : extractSerialNumber (blank.set i 0x4141) = extractSerialNumber blank := by
    simpa using same
  have nothing : SpelledBy blank "" := by
    refine ⟨⟨asciiChars blank, [], by simp, fun c member => ?_, by simp⟩, by simp, by simp⟩
    -- Both bytes of every word are NUL.
    obtain ⟨b, kept, rfl⟩ := List.mem_map.mp member
    obtain ⟨k, -, rfl⟩ := List.mem_map.mp (List.mem_filter.mp kept).1
    have zero : blank.getD (k / 2) 0 = 0 := by
      rcases lt_or_ge (k / 2) s.registrars.length with inside | outside
      · simp [blank, inside]
      · simp [blank, outside]
    have byte : byteAt blank k = 0 := by
      rw [byteAt, zero]
      split <;> rfl
    rw [byte]
    rfl
  have spelled : SpelledBy (blank.set i 0x4141) "" := by
    rw [spelledBy_iff reading'.bounded, texts]
    exact (spelledBy_iff reading.bounded "").mp nothing
  have letter : 'A' ∈ asciiChars (blank.set i 0x4141) := by
    refine List.mem_map.mpr ⟨0x41, List.mem_filter.mpr ⟨?_, rfl⟩, rfl⟩
    refine List.mem_map.mpr ⟨2 * i, List.mem_range.mpr ?_, ?_⟩
    · rw [reading'.length]
      omega
    · have here : 2 * i / 2 = i := by omega
      have inside : i < blank.length := reading.length ▸ bound
      rw [byteAt, if_pos (by omega), here, List.getD_eq_getElem?_getD,
        List.getElem?_set_self inside]
      rfl
  have blankLetter : isBlank 'A' = true := spelled.all_of_nil 'A' letter
  revert blankLetter
  decide

theorem not_decodesText_of_short (short : s.registrars.length < 15)
    (several : 1 < s.registrars.length) {words : List Nat} (reading : s.Reading words) :
    ¬ s.DecodesText words := by
  rintro ⟨text, shown, -⟩
  rw [convertValue_short short several reading] at shown
  exact scaleValue_ne_text _ _ _ (Option.some.inj shown)

/-- The third word is not looked at. -/
theorem not_dependsOn_of_short (short : s.registrars.length < 15)
    (several : 1 < s.registrars.length) : ¬ s.DependsOn 2 := by
  rintro ⟨words, w, reading, reading', differ⟩
  rw [convertValue_short short several reading, convertValue_short short several reading'] at differ
  refine differ (congrArg (fun n => some (scaleValue n s.multiplier)) ?_)
  apply combineWords_congr <;> simp [List.getD_eq_getElem?_getD]

/-- A sensor of three or more registers shows the text of its words, and depends on all of them, if
it has fifteen registers or more, and in no other case. -/
theorem decodesText_iff (s : BaseSensor) (several : 3 ≤ s.registrars.length) :
    (∀ words, s.Reading words → (s.DecodesText words ↔ 15 ≤ s.registrars.length)) ∧
      ((∀ i < s.registrars.length, s.DependsOn i) ↔ 15 ≤ s.registrars.length) := by
  refine ⟨fun words reading => ⟨fun decodes => ?_, fun long => ?_⟩, fun depends => ?_,
    fun long i bound => dependsOn_of_long long bound⟩
  · by_contra short
    exact not_decodesText_of_short (by omega) (by omega) reading decodes
  · refine ⟨_, convertValue_long long reading, ?_⟩
    exact (spelledBy_iff reading.bounded _).mpr rfl
  · by_contra short
    exact not_dependsOn_of_short (by omega) (by omega) (depends 2 (by omega))

/-- The serial number of a GivEnergy inverter: ten characters in five registers. -/
def givenergySerialNumber : BaseSensor :=
  { id := 13, registrars := [13, 14, 15, 16, 17], registrars_ne := List.cons_ne_nil _ _,
    multiplier := 0 }

theorem givenergySerialNumber_unread :
    3 ≤ givenergySerialNumber.registrars.length ∧
      givenergySerialNumber.Reading [0x5341, 0x3231, 0x3134, 0x4730, 0x3437] ∧
      SpelledBy [0x5341, 0x3231, 0x3134, 0x4730, 0x3437] "SA2114G047" ∧
      givenergySerialNumber.convertValue [0x5341, 0x3231, 0x3134, 0x4730, 0x3437] =
        some (.integer 1396781617) ∧
      ¬ givenergySerialNumber.DecodesText [0x5341, 0x3231, 0x3134, 0x4730, 0x3437] ∧
      ¬ givenergySerialNumber.DependsOn 2 := by
  have reading : givenergySerialNumber.Reading [0x5341, 0x3231, 0x3134, 0x4730, 0x3437] :=
    ⟨rfl, by decide⟩
  refine ⟨by decide, reading, ?_, by decide +kernel, ?_, ?_⟩
  · rw [spelledBy_iff reading.bounded]
    decide +kernel
  · exact not_decodesText_of_short (by decide) (by decide) reading
  · exact not_dependsOn_of_short (by decide) (by decide)

theorem givenergySerialNumber_decodesText_iff :
    (∀ words, givenergySerialNumber.Reading words →
        (givenergySerialNumber.DecodesText words ↔ 15 ≤ 5)) ∧
      ((∀ i < 5, givenergySerialNumber.DependsOn i) ↔ 15 ≤ 5) :=
  decodesText_iff givenergySerialNumber (by decide)

end HHModbus
