import HHModbus.Dispatch
import HHModbus.Lib.TwosComplement
import HHModbus.SunsynkDecode

/-!
# Pairs of words

The encoder and the four decoders of 32-bit values as they work on Python's integers, shift by
shift, with the arithmetic that the rest of the development uses for them.
-/
namespace HHModbus

namespace WordPair

/-- `_s32_words`. -/
def s32Words (value : Int) : List Int :=
  let raw := Int.land value 0xFFFFFFFF
  [Int.land (raw >>> (16 : Nat)) 0xFFFF, Int.land raw 0xFFFF]

/-- One of the two words of `split_s32`. -/
def signed (w : Int) : Int :=
  if Int.land w ((1 : Int) <<< (15 : Nat)) ≠ 0 then w - (1 : Int) <<< (16 : Nat) else w

/-- `split_s32`. -/
def splitS32 (s32Values : List Int) : Int :=
  let highWord := signed (s32Values.getD 0 0)
  let lowWord := signed (s32Values.getD 1 0)
  Int.lor (highWord <<< (16 : Nat)) (Int.land lowWord 0xFFFF)

/-- `combine_u32`. -/
def combineU32 (u32Values : List Int) : Int :=
  Int.lor (Int.land (u32Values.getD 0 0) 0xFFFF <<< (16 : Nat)) (Int.land (u32Values.getD 1 0) 0xFFFF)

/-- `combine_u32_le`. -/
def combineU32le (values : List Int) : Int :=
  Int.lor (Int.land (values.getD 1 0) 0xFFFF <<< (16 : Nat)) (Int.land (values.getD 0 0) 0xFFFF)

/-- `split_s32_le`. -/
def splitS32le (values : List Int) : Int := splitS32 [values.getD 1 0, values.getD 0 0]

/-! ### The bits as arithmetic -/

theorem land_word (w : Int) : Int.land w 0xFFFF = w % 65536 := TwosComplement.land_mask w 16

theorem lor_word (high : Int) (low : Int) :
    Int.lor (high <<< (16 : Nat)) (Int.land low 0xFFFF) = high * 65536 + low % 65536 := by
  rw [land_word, Int.shiftLeft_eq]
  exact TwosComplement.lor_shifted high (Int.emod_nonneg low (by decide))
    (Int.emod_lt_of_pos low (by decide))

theorem signed_cast (w : Nat) : signed w = signedWord w := by
  have bit : Int.land w ((1 : Int) <<< (15 : Nat)) = ((w &&& 0x8000 : Nat) : Int) := rfl
  have borrow : (1 : Int) <<< (16 : Nat) = 65536 := by decide
  unfold signed signedWord
  rw [bit, borrow]
  simp only [ne_eq, Int.natCast_eq_zero]

/-- A word that is read as negative has lost a multiple of 65536. -/
theorem signed_emod (w : Int) : signed w % 65536 = w % 65536 := by
  have borrow : (1 : Int) <<< (16 : Nat) = 65536 := by decide
  unfold signed
  split <;> omega

theorem splitS32_eq (ws : List Int) :
    splitS32 ws = signed (ws.getD 0 0) * 65536 + ws.getD 1 0 % 65536 := by
  rw [splitS32, lor_word, signed_emod]

theorem combineU32_eq (ws : List Int) :
    combineU32 ws = ws.getD 0 0 % 65536 * 65536 + ws.getD 1 0 % 65536 := by
  rw [combineU32, lor_word, land_word]

theorem s32Words_eq (value : Int) : s32Words value = [value / 65536 % 65536, value % 65536] := by
  have raw : Int.land value 0xFFFFFFFF = value % 4294967296 := TwosComplement.land_mask value 32
  have shifted (n : Int) : n >>> (16 : Nat) = n / 65536 := Int.shiftRight_eq_div_pow n 16
  simp only [s32Words, raw, land_word, shifted, List.cons.injEq]
  refine ⟨?_, ?_, trivial⟩ <;> omega

/-! ### What the rest of the development computes with -/

theorem s32Words_cast (value : Int) :
    (HHModbus.s32Words value).map Nat.cast = s32Words value := by
  have nonneg := Int.emod_nonneg value (show (4294967296 : Int) ≠ 0 by decide)
  have mask (n : Nat) : n &&& 0xFFFF = n % 65536 := Nat.and_two_pow_sub_one_eq_mod n 16
  rw [s32Words_eq]
  simp only [HHModbus.s32Words, mask, Nat.shiftRight_eq_div_pow, List.map_cons, List.map_nil,
    List.cons.injEq]
  refine ⟨?_, ?_, trivial⟩ <;> omega

theorem getD_cast (ws : List Nat) (i : Nat) :
    (ws.map (Nat.cast : Nat → Int)).getD i 0 = (ws.getD i 0 : Nat) := by
  rw [← Nat.cast_zero, List.getD_map]

theorem splitS32_cast (ws : List Nat) : splitS32 (ws.map Nat.cast) = HHModbus.splitS32 ws := by
  have mask (n : Nat) : n &&& 0xFFFF = n % 65536 := Nat.and_two_pow_sub_one_eq_mod n 16
  rw [splitS32_eq, getD_cast, getD_cast, signed_cast, HHModbus.splitS32, mask]
  rfl

theorem combineU32_cast (ws : List Nat) :
    combineU32 (ws.map Nat.cast) = HHModbus.combineU32 ws := by
  have mask (n : Nat) : n &&& 0xFFFF = n % 65536 := Nat.and_two_pow_sub_one_eq_mod n 16
  have below : ws.getD 1 0 % 65536 < 2 ^ 16 := Nat.mod_lt _ (by decide)
  rw [combineU32_eq, getD_cast, getD_cast, HHModbus.combineU32, mask, mask,
    ← Nat.shiftLeft_add_eq_or_of_lt below, Nat.shiftLeft_eq]
  push_cast
  rfl

/-! ### Round trips -/

def IsWord (w : Int) : Prop := 0 ≤ w ∧ w < 65536

theorem signed_of_word {w : Int} (word : IsWord w) :
    signed w = if 32768 ≤ w then w - 65536 else w := by
  obtain ⟨n, rfl⟩ := Int.eq_ofNat_of_zero_le word.1
  have fits : n < 65536 := by
    have := word.2
    omega
  rw [signed_cast, SensorDefinition.signedWord_eq fits, readBits, if_pos rfl, Int.bmod_def]
  split <;> split <;> omega

theorem testBit_of_word {w : Int} (word : IsWord w) : w.testBit 15 = true ↔ 32768 ≤ w := by
  obtain ⟨n, rfl⟩ := Int.eq_ofNat_of_zero_le word.1
  have fits := word.2
  have bit : Int.testBit n 15 = n.testBit 15 := rfl
  rw [bit, Nat.testBit_eq_decide_div_mod_eq, decide_eq_true_eq]
  omega

theorem splitS32_s32Words {v : Int} (low : -2147483648 ≤ v) (high : v < 2147483648) :
    splitS32 (s32Words v) = v := by
  have word : IsWord (v / 65536 % 65536) := ⟨by omega, by omega⟩
  simp only [s32Words_eq, splitS32_eq, List.getD_cons_zero, List.getD_cons_succ, signed_of_word word]
  split <;> omega

theorem combineU32_s32Words (v : Int) : combineU32 (s32Words v) = v % 4294967296 := by
  simp only [s32Words_eq, combineU32_eq, List.getD_cons_zero, List.getD_cons_succ]
  omega

section Pairs

variable {a b : Int} (high : IsWord a) (low : IsWord b)

include high low

theorem combineU32_pair : combineU32 [a, b] = a * 65536 + b := by
  simp only [combineU32_eq, List.getD_cons_zero, List.getD_cons_succ]
  rw [Int.emod_eq_of_lt high.1 high.2, Int.emod_eq_of_lt low.1 low.2]

theorem splitS32_pair :
    splitS32 [a, b] = if 32768 ≤ a then combineU32 [a, b] - 4294967296 else combineU32 [a, b] := by
  simp only [splitS32_eq, combineU32_pair high low, signed_of_word high, List.getD_cons_zero,
    List.getD_cons_succ]
  rw [Int.emod_eq_of_lt low.1 low.2]
  split <;> omega

theorem s32Words_splitS32 : s32Words (splitS32 [a, b]) = [a, b] := by
  rw [splitS32_pair high low, combineU32_pair high low, s32Words_eq]
  unfold IsWord at high low
  split <;> simp only [List.cons.injEq] <;> refine ⟨?_, ?_, trivial⟩ <;> omega

end Pairs

/-! ### The power of a dispatch block -/

end WordPair

namespace DispatchCall

/-- Where the power stands in the block. -/
def powerIndex : DispatchCall → Nat
  | dispatch _ => 1
  | schedule _ => 4

def powerPair (c : DispatchCall) (block : List Nat) : List Nat := (block.drop c.powerIndex).take 2

/-- `sign * round(power_watts / 10)`. -/
def power (c : DispatchCall) : Int := c.fields.mode.powerRaw c.fields.powerWatts

theorem powerPair_block {c : DispatchCall} {head : List Nat} (computed : c.blockHead = some head)
    (words : List Nat) : c.powerPair (head ++ words) = s32Words c.power := by
  cases c with
  | dispatch call =>
    cases computed
    rfl
  | schedule call =>
    simp only [blockHead, Option.bind_eq_bind, Option.bind_eq_some_iff, Option.pure_def,
      Option.some.injEq] at computed
    obtain ⟨start, -, end_, -, rfl⟩ := computed
    rfl

/-- The schema takes up to 240000 watts. -/
theorem power_fits {c : DispatchCall} (schema : c.fields.powerWatts ≤ 240000) :
    -2147483648 ≤ c.power ∧ c.power < 2147483648 := by
  have rounded : roundHalfEven c.fields.powerWatts 10 ≤ 24001 := by
    unfold roundHalfEven
    dsimp only
    split <;> omega
  unfold power DispatchMode.powerRaw
  cases c.fields.mode <;> simp only [DispatchMode.entry] <;> omega

end DispatchCall

/-- Values survive the way through two words in either direction, the decoders differ by the
weight of the sign alone, and the power in every block is read as it was meant. -/
theorem wordPairs_roundTrip :
    (∀ v : Int, -2147483648 ≤ v → v < 2147483648 →
      WordPair.splitS32 (WordPair.s32Words v) = v ∧
        WordPair.combineU32 (WordPair.s32Words v) = v % 2 ^ 32) ∧
    (∀ a b : Int, WordPair.IsWord a → WordPair.IsWord b →
      WordPair.s32Words (WordPair.splitS32 [a, b]) = [a, b] ∧
        WordPair.splitS32 [a, b] % 2 ^ 32 = WordPair.combineU32 [a, b] % 2 ^ 32 ∧
        (WordPair.splitS32 [a, b] ≠ WordPair.combineU32 [a, b] ↔ a.testBit 15 = true) ∧
        WordPair.splitS32le [a, b] = WordPair.splitS32 [b, a] ∧
        WordPair.combineU32le [a, b] = WordPair.combineU32 [b, a]) ∧
    ∀ (call : DispatchCall) (head words : List Nat), call.blockHead = some head →
      call.fields.powerWatts ≤ 240000 →
      WriteRequest.multiple call.blockRegister (head ++ words) ∈ call.lockedWrites head words ∧
        WordPair.splitS32 ((call.powerPair (head ++ words)).map Nat.cast) =
          call.fields.mode.entry.2 * roundHalfEven call.fields.powerWatts 10 := by
  refine ⟨fun v low high => ⟨WordPair.splitS32_s32Words low high, WordPair.combineU32_s32Words v⟩,
    fun a b high low => ⟨WordPair.s32Words_splitS32 high low, ?_, ?_, rfl, rfl⟩,
    fun call head words computed schema => ⟨?_, ?_⟩⟩
  · rw [WordPair.splitS32_pair high low]
    split <;> omega
  · rw [WordPair.splitS32_pair high low, WordPair.testBit_of_word high]
    split <;> omega
  · cases call <;> simp [DispatchCall.lockedWrites]
  · obtain ⟨low, high⟩ := DispatchCall.power_fits schema
    rw [DispatchCall.powerPair_block computed, WordPair.s32Words_cast]
    exact WordPair.splitS32_s32Words low high

theorem wordPairs_roundTrip_import :
    WordPair.splitS32 (WordPair.s32Words (-600)) = -600 ∧
      WordPair.s32Words (WordPair.splitS32 [0xFFFF, 0xFDA8]) = [0xFFFF, 0xFDA8] ∧
      (DispatchCall.dispatch { mode := .gridImport, powerWatts := 6000 }).blockHead =
        some [3, 0xFFFF, 0xFDA8, 0, 0, 100] ∧
      WordPair.splitS32 (([0xFFFF, 0xFDA8] : List Nat).map Nat.cast) = -1 * roundHalfEven 6000 10 := by
  obtain ⟨values, pairs, blocks⟩ := wordPairs_roundTrip
  have block := blocks (.dispatch { mode := .gridImport, powerWatts := 6000 })
    [3, 0xFFFF, 0xFDA8, 0, 0, 100] [40, 10000] (by decide) (by decide)
  exact ⟨(values (-600) (by decide) (by decide)).1,
    (pairs 0xFFFF 0xFDA8 ⟨by decide, by decide⟩ ⟨by decide, by decide⟩).1, by decide, block.2⟩

end HHModbus
