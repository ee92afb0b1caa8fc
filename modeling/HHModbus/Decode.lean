import HHModbus.Encoding

/-!
# From register words to values

`SolisBaseSensor._convert_raw_value` with the word helpers it uses.
-/
namespace HHModbus

inductive DataType where
  | u16
  | s16
  | u32
  | s32
  | u32le
  | s32le
  | string
  deriving DecidableEq, Repr

/-- What a sensor publishes. A float product stays the pair it is computed from. -/
inductive SensorValue where
  | integer (n : Int)
  | scaled (n : Int) (multiplier : ℚ)
  | text (s : String)
  deriving DecidableEq

/-- The number a sensor shows, if it shows one. -/
def SensorValue.number : SensorValue → Option ℚ
  | .integer n => some n
  | .scaled n multiplier => some (n * multiplier)
  | .text _ => none

/-- A word read as a signed 16-bit number. -/
def signedWord (w : Nat) : Int := if w &&& 0x8000 ≠ 0 then (w : Int) - 65536 else w

/-- `split_s32`: two words, the high one first. -/
def splitS32 (words : List Nat) : Int :=
  -- The shifted high word has no low bits, so the bitwise or is a sum.
  signedWord (words.getD 0 0) * 65536 + (words.getD 1 0 &&& 0xFFFF : Nat)

example : splitS32 [0xFFFF, 0xFFFE] = -2 := by decide

def splitS32le (words : List Nat) : Int := splitS32 [words.getD 1 0, words.getD 0 0]

def combineU32 (words : List Nat) : Nat :=
  ((words.getD 0 0 &&& 0xFFFF) <<< 16) ||| (words.getD 1 0 &&& 0xFFFF)

def combineU32le (words : List Nat) : Nat := combineU32 [words.getD 1 0, words.getD 0 0]

/-- `extract_serial_number`: two bytes a word, what is not ASCII dropped, then stripped. -/
def extractSerialNumber (words : List Nat) : String :=
  let bytes := words.flatMap fun w => [w / 256 % 256, w % 256]
  let chars := (bytes.filter (· < 128)).map Char.ofNat
  let blank (c : Char) : Bool := c = Char.ofNat 0 ∨ c = '\r' ∨ c = '\n' ∨ c = ' '
  String.ofList ((chars.dropWhile blank).reverse.dropWhile blank).reverse

/-- The number of two or more words, by the sensor's data type. -/
def combineWords (dataType : Option DataType) (words : List Nat) : Int :=
  match dataType with
  | some .u32 => combineU32 words
  | some .u32le => combineU32le words
  | some .s32le => splitS32le words
  | _ => splitS32 words

def scaleValue (n : Int) (multiplier : ℚ) : SensorValue :=
  if multiplier = 0 ∨ multiplier = 1 then .integer n else .scaled n multiplier

/-- `_convert_raw_value` for a sensor of `registerCount` registers, all of them read. -/
def convertRawValue (registerCount : Nat) (dataType : Option DataType) (multiplier : ℚ)
    (words : List Nat) : Option SensorValue :=
  if words = [] then none
  else if 15 ≤ registerCount then some (.text (extractSerialNumber words))
  else if 1 < registerCount then some (scaleValue (combineWords dataType words) multiplier)
  else
    let raw := words.getD 0 0
    let signed : Int := if dataType = some .s16 ∧ 32767 < raw then (raw : Int) - 65536 else raw
    some (scaleValue signed multiplier)

end HHModbus
