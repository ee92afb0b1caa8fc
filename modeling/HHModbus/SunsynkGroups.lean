import Mathlib.Data.List.Sort
import HHModbus.Lib.Segments
import HHModbus.SunsynkDecode

/-!
# Reading the registers of the library's sensors in blocks

`group_sensors` of the bundled `sunsynk` library.
-/
namespace HHModbus

open Segments

/-- The set `regs`, sorted. Of a sensor only its `address` matters. -/
def sortedRegisters (sensors : List (List Nat)) : List Nat :=
  sensors.flatten.dedup.mergeSort (· ≤ ·)

/-- The test of the loop; `adr0` is the register that joined last. -/
def joinsGroup (allowGap maxGroupSize : Nat) (group : List Nat) (adr1 : Nat) : Bool :=
  !(allowGap < adr1 - group.getLastD 0 || maxGroupSize ≤ adr1 - group.headD 0)

def groupSensors (allowGap maxGroupSize : Nat) (sensors : List (List Nat)) : List (List Nat) :=
  segments (joinsGroup allowGap maxGroupSize) (sortedRegisters sensors)

/-- `glen`, the number of registers that a group is read with. -/
def groupLength (group : List Nat) : Nat := group.getLastD 0 - group.headD 0 + 1

/-- A block of registers as the two limits allow it. -/
structure ReadBlock (allowGap maxGroupSize : Nat) (group : List Nat) : Prop where
  nonempty : group ≠ []
  gaps : group.IsChain fun a b => b ≤ a + allowGap
  length : groupLength group ≤ maxGroupSize

variable {allowGap maxGroupSize : Nat}

theorem sortedRegisters_sorted (sensors : List (List Nat)) :
    (sortedRegisters sensors).Pairwise (· < ·) := by
  have order : (sortedRegisters sensors).Pairwise (· ≤ ·) :=
    List.pairwise_mergeSort' (· ≤ ·) sensors.flatten.dedup
  have distinct : (sortedRegisters sensors).Nodup :=
    (List.mergeSort_perm _ _).nodup_iff.mpr (List.nodup_dedup _)
  exact order.imp₂ (fun _ _ le ne => Nat.lt_of_le_of_ne le ne) distinct

theorem mem_sortedRegisters {sensors : List (List Nat)} {r : Nat} :
    r ∈ sortedRegisters sensors ↔ ∃ address ∈ sensors, r ∈ address := by
  simp [sortedRegisters, List.mem_flatten]

theorem headD_append {a : List Nat} (b : List Nat) (nonempty : a ≠ []) :
    (a ++ b).headD 0 = a.headD 0 := by
  cases a with
  | nil => exact absurd rfl nonempty
  | cons x a => rfl

theorem getLastD_append (a : List Nat) {b : List Nat} (nonempty : b ≠ []) :
    (a ++ b).getLastD 0 = b.getLastD 0 := by
  simp [List.getLastD_eq_getLast?, List.getLast?_append, List.getLast?_eq_some_getLast nonempty]

/-- A register joins if the group stays a block. -/
theorem joinsGroup_iff {group : List Nat} {x : Nat} (nonempty : group ≠ []) :
    joinsGroup allowGap maxGroupSize group x = true ↔
      x ≤ group.getLastD 0 + allowGap ∧ groupLength (group ++ [x]) ≤ maxGroupSize := by
  simp only [joinsGroup, groupLength, headD_append [x] nonempty, List.getLastD_concat]
  simp
  omega

theorem head_le_of_sorted {s : List Nat} (sorted : s.Pairwise (· < ·)) {x : Nat} (member : x ∈ s) :
    s.headD 0 ≤ x := by
  cases s with
  | nil => exact absurd member List.not_mem_nil
  | cons y s =>
    rcases List.mem_cons.mp member with rfl | behind
    · exact Nat.le_refl _
    · exact ((List.pairwise_cons.mp sorted).1 x behind).le

theorem le_last_of_sorted {s : List Nat} (sorted : s.Pairwise (· < ·)) {x : Nat} (member : x ∈ s) :
    x ≤ s.getLastD 0 := by
  -- The last register is what the induction from the right splits off.
  induction s using List.reverseRecOn with
  | nil => exact absurd member List.not_mem_nil
  | append_singleton s y _ =>
    rw [getLastD_append s (by simp)]
    rcases List.mem_append.mp member with before | last
    · exact ((List.pairwise_append.mp sorted).2.2 x before y (by simp)).le
    · exact (List.mem_singleton.mp last).le

/-- The blocks are what the loop can build. -/
theorem fitting_iff_readBlock {s : List Nat} (sorted : s.Pairwise (· < ·)) (nonempty : s ≠ [])
    (room : 0 < maxGroupSize) :
    Fitting (joinsGroup allowGap maxGroupSize) s ↔ ReadBlock allowGap maxGroupSize s := by
  constructor
  · intro fitting
    -- A group is built register by register, each of which had to join.
    induction s using List.reverseRecOn with
    | nil => exact absurd rfl nonempty
    | append_singleton s x ih =>
      by_cases first : s = []
      · subst first
        exact ⟨by simp, by simp, by simpa [groupLength] using Nat.succ_le_of_lt room⟩
      · obtain ⟨before, next⟩ := fitting.of_append first
        have block := ih (List.pairwise_append.mp sorted).1 first before
        obtain ⟨near, short⟩ := (joinsGroup_iff first).mp next
        have gaps : (s ++ [x]).IsChain fun a b => b ≤ a + allowGap := by
          apply block.gaps.append (List.isChain_singleton x)
          intro a last b same
          simp [List.getLastD_eq_getLast?, Option.mem_def.mp last] at near
          simpa using (by simpa using same : x = b) ▸ near
        exact ⟨by simp, gaps, short⟩
  · intro block a x initial started
    -- Conversely, each start of a block is a block that the next register joins.
    obtain ⟨rest, rfl⟩ := initial
    apply (joinsGroup_iff started).mpr
    constructor
    · have near := block.gaps.left_of_append.rel_getLast_head_of_append started (by simp)
      simpa [List.getLastD_eq_getLast?, List.getLast?_eq_some_getLast started] using near
    · have whole := block.length
      -- The block up to this register is no longer than the whole one.
      have below := le_last_of_sorted sorted (x := x) (by simp)
      simp only [groupLength, List.getLastD_concat, headD_append _ started, List.append_assoc]
        at whole below ⊢
      omega

theorem joinsGroup_suffixClosed {l : List Nat} (sorted : l.Pairwise (· < ·)) :
    SuffixClosed (joinsGroup allowGap maxGroupSize) l := by
  intro a b x within nonempty next
  have both : a ++ b ≠ [] := by simp [nonempty]
  have stretch : (a ++ b ++ [x]).Pairwise (· < ·) := sorted.sublist within.sublist
  -- What joins a group joins its later part too, which starts later and ends at the same register.
  have first : (a ++ b).headD 0 ≤ b.headD 0 := by
    apply head_le_of_sorted (List.pairwise_append.mp stretch).1
    cases b with
    | nil => exact absurd rfl nonempty
    | cons y b => simp
  obtain ⟨near, short⟩ := (joinsGroup_iff both).mp next
  apply (joinsGroup_iff nonempty).mpr
  simp only [groupLength, headD_append _ both, headD_append _ nonempty, getLastD_append a nonempty,
    List.getLastD_concat] at near short ⊢
  omega

theorem groupSensors_cutting (allowGap maxGroupSize : Nat) (sensors : List (List Nat)) :
    Cutting (joinsGroup allowGap maxGroupSize) (sortedRegisters sensors)
      (groupSensors allowGap maxGroupSize sensors) := segments_cutting _

theorem part_sorted {sensors parts : List (List Nat)} (flat : parts.flatten = sortedRegisters sensors)
    {s : List Nat} (member : s ∈ parts) : s.Pairwise (· < ·) :=
  (sortedRegisters_sorted sensors).sublist (flat ▸ List.sublist_flatten_of_mem member)

theorem mem_flatten_groupSensors {sensors : List (List Nat)} {r : Nat} :
    r ∈ (groupSensors allowGap maxGroupSize sensors).flatten ↔ ∃ address ∈ sensors, r ∈ address := by
  rw [(groupSensors_cutting allowGap maxGroupSize sensors).whole, mem_sortedRegisters]

theorem groupSensors_readBlock (room : 0 < maxGroupSize) {sensors : List (List Nat)} {group : List Nat}
    (member : group ∈ groupSensors allowGap maxGroupSize sensors) :
    ReadBlock allowGap maxGroupSize group := by
  have cutting := groupSensors_cutting allowGap maxGroupSize sensors
  exact (fitting_iff_readBlock (part_sorted cutting.whole member) (cutting.nonempty group member) room).mp
    (cutting.fitting group member)

/-- **Every register is read once, in as few blocks as the limits allow**: the groups hold the
registers of the sensors in rising order, each within the limits, and no division of these registers
into blocks within the limits has fewer of them. -/
theorem groupSensors_optimal (allowGap maxGroupSize : Nat) (room : 0 < maxGroupSize)
    (sensors : List (List Nat)) :
    (∀ r, r ∈ (groupSensors allowGap maxGroupSize sensors).flatten ↔ ∃ address ∈ sensors, r ∈ address) ∧
    (groupSensors allowGap maxGroupSize sensors).flatten.Pairwise (· < ·) ∧
    (∀ group ∈ groupSensors allowGap maxGroupSize sensors, ReadBlock allowGap maxGroupSize group) ∧
    ∀ blocks : List (List Nat), (∀ block ∈ blocks, ReadBlock allowGap maxGroupSize block) →
      blocks.flatten = (groupSensors allowGap maxGroupSize sensors).flatten →
      (groupSensors allowGap maxGroupSize sensors).length ≤ blocks.length := by
  have whole := (groupSensors_cutting allowGap maxGroupSize sensors).whole
  have sorted := sortedRegisters_sorted sensors
  refine ⟨fun r => mem_flatten_groupSensors, ?_, fun group => groupSensors_readBlock room, ?_⟩
  · rwa [whole]
  · intro blocks allowed flat
    rw [whole] at flat
    -- Any other division is a cutting of the same list, to which the greedy one is compared.
    apply segments_minimal (joinsGroup_suffixClosed sorted)
    constructor
    · exact flat
    · exact fun block member => (allowed block member).nonempty
    · intro block member
      exact (fitting_iff_readBlock (part_sorted flat member) (allowed block member).nonempty room).mpr
        (allowed block member)

/-- With the limits that `Sunsynk` reads with. -/
theorem groupSensors_optimal_default :
    (groupSensors 2 20 [[79], [60, 61], [63, 59]]).flatten.Pairwise (· < ·) ∧
      ∀ group ∈ groupSensors 2 20 [[79], [60, 61], [63, 59]], ReadBlock 2 20 group := by
  obtain ⟨-, order, blocks, -⟩ :=
    groupSensors_optimal 2 20 (by decide) [[79], [60, 61], [63, 59]]
  exact ⟨order, blocks⟩

end HHModbus
