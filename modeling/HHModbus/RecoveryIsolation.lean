import HHModbus.RecoveryGroups

/-!
# Recovery isolates exactly the bad sensors

On a link that stays up, a probe fails exactly when its block has a rejected register, so the
bisection finds one. The groups split off have one rejected register less than the group they
come from, which bounds the depth.
-/
namespace HHModbus

namespace SensorGroup.OneBlock

variable {g : SensorGroup}

theorem countP_block (one : g.OneBlock) (p : Nat → Bool) :
    g.block.countP p = (registersOf g.sensors).countP p := (one.tiled.countP_eq p).symm

end SensorGroup.OneBlock

namespace Recovery

variable {bad : Nat → Bool} {value : Nat → Nat → Nat} {isHolding : Bool}

/-! ### The bisection -/

theorem probe_up_covers (s : Recovery) (g : SensorGroup) (start count : Nat) :
    (probe (.up bad value) isHolding s g start count).reply.covers count = true ↔
      ∀ r ∈ List.range' start count, bad r = false := by
  simp only [probe, ModbusLink.up]
  cases any : (List.range' start count).any bad with
  | true =>
    obtain ⟨r, inside, rejected⟩ := List.any_eq_true.mp any
    simp only [if_true, Reply.covers, Bool.false_eq_true, false_iff]
    intro free
    exact absurd (free r inside) (by simp [rejected])
  | false =>
    simp only [Bool.false_eq_true, if_false, Reply.covers, List.length_map, List.length_range',
      beq_self_eq_true, true_iff]
    intro r inside
    exact Bool.eq_false_iff.mpr (List.any_eq_false.mp any r inside)

/-- A block with a rejected register is bisected down to one. -/
theorem isolateOneBadRegister_up (value : Nat → Nat → Nat) (isHolding : Bool) (g : SensorGroup)
    (rounds start count : Nat) (s : Recovery) (enough : count ≤ rounds)
    (failing : ∃ r ∈ List.range' start count, bad r = true) :
    ∃ t r, isolateOneBadRegister (.up bad value) isHolding g rounds start count s = (t, some r) ∧
      bad r = true ∧ r ∈ List.range' start count := by
  induction rounds generalizing start count s with
  | zero =>
    obtain ⟨r, inside, -⟩ := failing
    rw [Nat.le_zero.mp enough] at inside
    cases inside
  | succ rounds ih =>
    obtain ⟨r, inside, rejected⟩ := failing
    have bounds := List.mem_range'_1.mp inside
    rw [isolateOneBadRegister, if_neg (by omega)]
    by_cases single : count = 1
    · -- A block of one register is not probed again.
      have only : r = start := by omega
      rw [if_pos single]
      exact ⟨s, start, rfl, only ▸ rejected, only ▸ inside⟩
    rw [if_neg single]
    have mid : (if count / 2 < 1 then 1 else count / 2) = count / 2 := if_neg (by omega)
    simp only [mid]
    rw [probeRegisterBlockQuiet_eq s g start (count / 2) (by omega)]
    cases left : (probe (.up bad value) isHolding s g start (count / 2)).reply.covers (count / 2) with
    | false =>
      have found : ∃ r ∈ List.range' start (count / 2), bad r = true := by
        by_contra none_
        apply Bool.eq_false_iff.mp left
        apply (probe_up_covers s g _ _).mpr
        intro r member
        exact Bool.eq_false_iff.mpr fun rejected => none_ ⟨r, member, rejected⟩
      obtain ⟨t, x, same, rejected, member⟩ :=
        ih start (count / 2) (s.asked (probe (.up bad value) isHolding s g start (count / 2)))
          (by omega) found
      refine ⟨t, x, same, rejected, ?_⟩
      rw [List.mem_range'_1] at member ⊢
      omega
    | true =>
      -- The left half is answered, so the rejected register is in the right one.
      have clear := (probe_up_covers s g _ _).mp left
      have right : start + count / 2 ≤ r := by
        by_contra below
        have free := clear r (List.mem_range'_1.mpr (by omega))
        exact absurd free (by simp [rejected])
      have found : r ∈ List.range' (start + count / 2) (count - count / 2) :=
        List.mem_range'_1.mpr (by omega)
      simp only
      rw [probeRegisterBlockQuiet_eq _ g (start + count / 2) (count - count / 2) (by omega)]
      have fails : (probe (.up bad value) isHolding
          (s.asked (probe (.up bad value) isHolding s g start (count / 2))) g (start + count / 2)
          (count - count / 2)).reply.covers (count - count / 2) = false := by
        apply Bool.eq_false_iff.mpr
        intro covers
        have free := (probe_up_covers _ g _ _).mp covers r found
        exact absurd free (by simp [rejected])
      rw [fails]
      obtain ⟨t, x, same, rejected, member⟩ := ih (start + count / 2) (count - count / 2) _
        (by omega) ⟨r, found, rejected⟩
      refine ⟨t, x, same, rejected, ?_⟩
      rw [List.mem_range'_1] at member ⊢
      omega

/-! ### The reads -/

theorem readNewGroup_free (nested : SensorGroup → Recovery → Recovery × List (SensorGroup × List Nat))
    (s : Recovery) (g : SensorGroup) (free : ∀ r ∈ g.block, bad r = false) :
    s.readNewGroup (.up bad value) isHolding nested g =
      (s.attempted, [(g, g.block.map (value s.attempts))]) := by
  have any : (List.range' g.startRegister g.registrarCount).any bad = false := by
    rw [List.any_eq_false]
    exact fun r inside => Bool.eq_false_iff.mp (free r inside)
  simp [readNewGroup, readRegisterBlockWithException, ModbusLink.up, any, Reply.result,
    Option.filter, SensorGroup.block]

theorem readNewGroup_failing (nested : SensorGroup → Recovery → Recovery × List (SensorGroup × List Nat))
    (s : Recovery) (g : SensorGroup) (failing : ∃ r ∈ g.block, bad r = true) :
    s.readNewGroup (.up bad value) isHolding nested g = nested g s.attempted := by
  have any : (List.range' g.startRegister g.registrarCount).any bad = true :=
    List.any_eq_true.mpr failing
  simp [readNewGroup, readRegisterBlockWithException, ModbusLink.up, any, Reply.result, recoverable]

/-! ### The groups split off -/

theorem splitGroups_mem (s : Recovery) (g : SensorGroup) (r : Nat) (x : BaseSensor) :
    x ∈ (s.splitGroups g r).flatMap SensorGroup.sensors ↔
      x ∈ g.sensors ∧ r ∉ x.registrars ∧ (s.disableOn g r).enabled x.id = true := by
  rw [(splitGroups_sensors s g r).mem_iff, List.mem_filter, List.mem_filter, decide_eq_true_iff,
    and_assoc]

theorem splitGroups_oneBlock (s : Recovery) (g : SensorGroup) (r : Nat) (one : g.OneBlock) :
    ∀ n ∈ s.splitGroups g r, n.OneBlock := by
  intro n member
  have cluster := newGroups_cluster _ _ _ n member
  have inside (x : BaseSensor) (h : x ∈ n.sensors) : x ∈ g.sensors := by
    have joined := List.mem_flatMap.mpr ⟨n, member, h⟩
    exact ((splitGroups_mem s g r x).mp joined).1
  have disjoint : (registersOf (g.sensors.filter fun x => r ∉ x.registrars)).Nodup :=
    (List.Sublist.flatMap List.filter_sublist _).nodup one.tiled.nodup
  obtain ⟨lo, k, tiles⟩ := clusterSensors_tiles _ _
    (fun x h => one.contiguous x (List.mem_filter.mp h).1) disjoint n.sensors cluster
  exact ⟨fun x h => one.contiguous x (inside x h), n.tiled_of_tiles lo k tiles⟩

/-- The rejected register that was found is in none of the new blocks. -/
theorem splitGroups_fewer (s : Recovery) (g : SensorGroup) (r : Nat) (one : g.OneBlock)
    (rejected : bad r = true) (inside : r ∈ g.block) :
    ∀ n ∈ s.splitGroups g r, n.block.countP bad < g.block.countP bad := by
  intro n member
  rw [(splitGroups_oneBlock s g r one n member).countP_block, one.countP_block]
  -- The registers of a cluster are among those left over, and `r` was in the other part.
  have below : (registersOf n.sensors).countP bad ≤
      (registersOf (g.sensors.filter fun x => r ∉ x.registrars)).countP bad := by
    have own := List.sublist_flatten_of_mem (newGroups_cluster _ _ _ n member)
    have all := (clusterSensors_perm (s.disableOn g r).enabled
      (g.sensors.filter fun x => r ∉ x.registrars)).flatMap_right BaseSensor.registrars
    calc (registersOf n.sensors).countP bad
        ≤ _ := (own.flatMap BaseSensor.registrars).countP_le
      _ = _ := all.countP_eq bad
      _ ≤ _ := (List.filter_sublist.flatMap BaseSensor.registrars).countP_le
  have parts : (registersOf g.sensors).countP bad =
      (registersOf (g.sensors.filter fun x => r ∈ x.registrars)).countP bad +
        (registersOf (g.sensors.filter fun x => r ∉ x.registrars)).countP bad := by
    have both := List.filter_append_perm (fun x : BaseSensor => decide (r ∈ x.registrars)) g.sensors
    have split := (both.flatMap_right BaseSensor.registrars).countP_eq bad
    rw [List.flatMap_append, List.countP_append] at split
    simpa [registersOf] using split.symm
  have found : 0 < (registersOf (g.sensors.filter fun x => r ∈ x.registrars)).countP bad := by
    obtain ⟨x, member, uses⟩ := one.mem_block.mp inside
    rw [List.countP_pos_iff]
    exact ⟨r, List.mem_flatMap.mpr ⟨x, List.mem_filter.mpr ⟨member, by simpa using uses⟩, uses⟩, rejected⟩
  omega

/-! ### Isolation -/

/-- Groups have been replaced by groups free of rejected registers, with the sensors that were
enabled and touch none, and the others disabled. -/
structure Isolated (bad : Nat → Bool) (value : Nat → Nat → Nat) (pre post old : List SensorGroup)
    (s : Recovery) (result : Recovery × List (SensorGroup × List Nat)) (new : List SensorGroup) : Prop
    extends Kept pre post old s result.1 new where
  sensors : ∀ x, x ∈ new.flatMap SensorGroup.sensors ↔
    x ∈ old.flatMap SensorGroup.sensors ∧ s.enabled x.id = true ∧ ¬ x.Touches bad
  enabled : ∀ id, result.1.enabled id = true ↔
    s.enabled id = true ∧ ∀ x ∈ old.flatMap SensorGroup.sensors, x.Touches bad → ¬ x.id = id
  free : ∀ n ∈ new, ∀ r ∈ n.block, bad r = false
  returned : result.2.map Prod.fst = new
  read : ∀ p ∈ result.2, ∃ attempt, p.2 = p.1.block.map (value attempt)

/-- A group free of rejected registers is read and stays. -/
theorem Isolated.of_free {pre post : List SensorGroup} {g : SensorGroup} {s : Recovery}
    (groups : s.groups = pre ++ [g] ++ post) (numbered : s.Numbered) (one : g.OneBlock)
    (free : ∀ r ∈ g.block, bad r = false) (live : ∀ x ∈ g.sensors, s.enabled x.id = true) :
    Isolated bad value pre post [g] s (s.attempted, [(g, g.block.map (value s.attempts))]) [g] where
  toKept := Kept.of_same groups numbered rfl rfl rfl
  sensors x := by
    have clear (member : x ∈ g.sensors) : ¬ x.Touches bad := by
      rintro ⟨r, uses, rejected⟩
      rw [free r (one.mem_block.mpr ⟨x, member, uses⟩)] at rejected
      cases rejected
    simp only [List.flatMap_singleton]
    exact ⟨fun member => ⟨member, live x member, clear member⟩, fun h => h.1⟩
  enabled id := by
    refine ⟨fun on => ⟨on, ?_⟩, fun h => h.1⟩
    rintro x member ⟨r, uses, rejected⟩
    rw [List.flatMap_singleton] at member
    rw [free r (one.mem_block.mpr ⟨x, member, uses⟩)] at rejected
    cases rejected
  free n member := by
    rw [List.mem_singleton.mp member]
    exact free
  returned := rfl
  read p member := by
    rw [List.mem_singleton.mp member]
    exact ⟨s.attempts, rfl⟩

/-- Neighbours that share no sensor are isolated one after the other. -/
theorem Isolated.beside {pre post a b a' b' : List SensorGroup} {s : Recovery}
    {first second : Recovery × List (SensorGroup × List Nat)}
    (left : Isolated bad value pre (b ++ post) a s first a')
    (right : Isolated bad value (pre ++ a') post b first.1 second b')
    (apart : ∀ x ∈ a.flatMap SensorGroup.sensors, ∀ y ∈ b.flatMap SensorGroup.sensors, ¬ x.id = y.id) :
    Isolated bad value pre post (a ++ b) s (second.1, first.2 ++ second.2) (a' ++ b') where
  toKept := left.toKept.beside right.toKept
  sensors x := by
    have same (member : x ∈ b.flatMap SensorGroup.sensors) :
        first.1.enabled x.id = true ↔ s.enabled x.id = true := by
      rw [left.enabled]
      exact ⟨fun h => h.1, fun on => ⟨on, fun y other _ => apart y other x member⟩⟩
    rw [List.flatMap_append, List.mem_append, List.flatMap_append, List.mem_append, left.sensors,
      right.sensors]
    constructor
    · rintro (⟨member, on, clear⟩ | ⟨member, on, clear⟩)
      · exact ⟨.inl member, on, clear⟩
      · exact ⟨.inr member, (same member).mp on, clear⟩
    · rintro ⟨member | member, on, clear⟩
      · exact .inl ⟨member, on, clear⟩
      · exact .inr ⟨member, (same member).mpr on, clear⟩
  enabled id := by
    rw [right.enabled, left.enabled, List.flatMap_append, and_assoc]
    simp only [List.mem_append, or_imp, forall_and]
  free n member := by
    rcases List.mem_append.mp member with old | new
    · exact left.free n old
    · exact right.free n new
  returned := by rw [List.map_append, left.returned, right.returned]
  read p member := by
    rcases List.mem_append.mp member with old | new
    · exact left.read p old
    · exact right.read p new

/-- What is isolated among the groups split off is isolated in the group they come from. -/
theorem Isolated.of_split {pre post new : List SensorGroup} {g : SensorGroup} {s : Recovery} {r : Nat}
    {result : Recovery × List (SensorGroup × List Nat)}
    (cut : Kept pre post [g] s (s.split g r) (s.splitGroups g r))
    (parts : Isolated bad value pre post (s.splitGroups g r) (s.split g r) result new)
    (rejected : bad r = true) (distinct : (g.sensors.map BaseSensor.id).Nodup) :
    Isolated bad value pre post [g] s result new where
  toKept := cut.trans parts.toKept
  sensors x := by
    rw [parts.sensors, splitGroups_mem, split_enabled, disableOn_enabled, List.flatMap_singleton]
    constructor
    · rintro ⟨⟨member, -, on, -⟩, -, clear⟩
      exact ⟨member, on, clear⟩
    · rintro ⟨member, on, clear⟩
      have off : r ∉ x.registrars := fun uses => clear ⟨r, uses, rejected⟩
      -- No other sensor shares its flag.
      have alone : ∀ y ∈ g.sensors, r ∈ y.registrars → ¬ y.id = x.id := by
        intro y other uses same
        have equal : y = x := List.inj_on_of_nodup_map distinct other member same
        exact off (equal ▸ uses)
      exact ⟨⟨member, off, on, alone⟩, ⟨on, alone⟩, clear⟩
  enabled id := by
    rw [parts.enabled, split_enabled, List.flatMap_singleton]
    constructor
    · rintro ⟨on, others⟩
      refine ⟨((disableOn_enabled s g r id).mp on).1, fun x member touches same => ?_⟩
      by_cases uses : r ∈ x.registrars
      · exact ((disableOn_enabled s g r id).mp on).2 x member uses same
      · exact others x ((splitGroups_mem s g r x).mpr ⟨member, uses, same ▸ on⟩) touches same
    · rintro ⟨on, others⟩
      refine ⟨(disableOn_enabled s g r id).mpr ⟨on, fun x member uses => ?_⟩, fun x member touches => ?_⟩
      · exact others x member ⟨r, uses, rejected⟩
      · exact others x ((splitGroups_mem s g r x).mp member).1 touches
  free := parts.free
  returned := parts.returned
  read := parts.read

theorem Isolated.of_same {pre post old new : List SensorGroup} {s t : Recovery}
    {result : Recovery × List (SensorGroup × List Nat)}
    (kept : Kept pre post old s t old) (same : t.enabled = s.enabled)
    (later : Isolated bad value pre post old t result new) :
    Isolated bad value pre post old s result new where
  toKept := kept.trans later.toKept
  sensors x := by rw [later.sensors, same]
  enabled id := by rw [later.enabled, same]
  free := later.free
  returned := later.returned
  read := later.read

/-- What a nested recovery of a failing group does, if it has `depthLeft` rejected registers
at most. -/
def Isolates (bad : Nat → Bool) (value : Nat → Nat → Nat) (depthLeft : Nat)
    (nested : SensorGroup → Recovery → Recovery × List (SensorGroup × List Nat)) : Prop :=
  ∀ (g : SensorGroup) (s : Recovery) (pre post : List SensorGroup),
    s.groups = pre ++ [g] ++ post → s.Numbered → g.OneBlock → (g.sensors.map BaseSensor.id).Nodup →
    (∃ r ∈ g.block, bad r = true) → g.block.countP bad ≤ depthLeft →
    ∃ new, Isolated bad value pre post [g] s (nested g s) new

theorem readNewGroup_isolated (isHolding : Bool) (depthLeft : Nat)
    (nested : SensorGroup → Recovery → Recovery × List (SensorGroup × List Nat))
    (recovers : Isolates bad value depthLeft nested) (g : SensorGroup) (s : Recovery)
    (pre post : List SensorGroup) (placed : s.groups = pre ++ [g] ++ post) (numbered : s.Numbered)
    (one : g.OneBlock) (distinct : (g.sensors.map BaseSensor.id).Nodup)
    (few : g.block.countP bad ≤ depthLeft) (live : ∀ x ∈ g.sensors, s.enabled x.id = true) :
    ∃ new, Isolated bad value pre post [g] s
      (s.readNewGroup (.up bad value) isHolding nested g) new := by
  by_cases failing : ∃ r ∈ g.block, bad r = true
  · rw [readNewGroup_failing nested s g failing]
    have tried : Kept pre post [g] s s.attempted [g] := Kept.of_same placed numbered rfl rfl rfl
    obtain ⟨new, isolated⟩ := recovers g s.attempted pre post tried.groups tried.numbered one distinct
      failing few
    exact ⟨new, Isolated.of_same tried rfl isolated⟩
  · have free : ∀ r ∈ g.block, bad r = false := by
      intro r inside
      exact Bool.eq_false_iff.mpr fun rejected => failing ⟨r, inside, rejected⟩
    rw [readNewGroup_free nested s g free]
    exact ⟨[g], Isolated.of_free placed numbered one free live⟩

theorem readNewGroups_isolated (isHolding : Bool) (depthLeft : Nat)
    (nested : SensorGroup → Recovery → Recovery × List (SensorGroup × List Nat))
    (recovers : Isolates bad value depthLeft nested) (groups : List SensorGroup) (s : Recovery)
    (pre post : List SensorGroup) (placed : s.groups = pre ++ groups ++ post) (numbered : s.Numbered)
    (blocks : ∀ g ∈ groups, g.OneBlock) (few : ∀ g ∈ groups, g.block.countP bad ≤ depthLeft)
    (distinct : ((groups.flatMap SensorGroup.sensors).map BaseSensor.id).Nodup)
    (live : ∀ x ∈ groups.flatMap SensorGroup.sensors, s.enabled x.id = true) :
    ∃ new, Isolated bad value pre post groups s
      (readNewGroups (.up bad value) isHolding nested groups s) new := by
  induction groups generalizing s pre with
  | nil =>
    refine ⟨[], Kept.of_same placed numbered rfl rfl rfl, ?_, ?_, ?_, rfl, ?_⟩
    all_goals simp [readNewGroups]
  | cons g rest ih =>
    have placed : s.groups = pre ++ [g] ++ (rest ++ post) := by simpa using placed
    rw [List.flatMap_cons, List.map_append, List.nodup_append] at distinct
    obtain ⟨own, others, different⟩ := distinct
    have apart (x : BaseSensor) (here : x ∈ g.sensors) (y : BaseSensor)
        (there : y ∈ rest.flatMap SensorGroup.sensors) : ¬ x.id = y.id :=
      different x.id (List.mem_map_of_mem here) y.id (List.mem_map_of_mem there)
    obtain ⟨new, first⟩ := readNewGroup_isolated isHolding depthLeft nested recovers g s pre
      (rest ++ post) placed numbered (blocks g List.mem_cons_self) own (few g List.mem_cons_self)
      fun x member => live x (by simp [member])
    -- The recovery of one group disables no sensor of the next ones.
    have still : ∀ y ∈ rest.flatMap SensorGroup.sensors,
        (s.readNewGroup (.up bad value) isHolding nested g).1.enabled y.id = true := by
      intro y there
      rw [first.enabled]
      refine ⟨live y (List.mem_append.mpr (.inr there)), fun x here _ => ?_⟩
      rw [List.flatMap_singleton] at here
      exact apart x here y there
    obtain ⟨more, rest_⟩ := ih _ (pre ++ new)
      (by rw [first.groups, List.append_assoc (pre ++ new)]) first.numbered
      (fun h member => blocks h (List.mem_cons_of_mem g member))
      (fun h member => few h (List.mem_cons_of_mem g member)) others still
    refine ⟨new ++ more, Isolated.beside first rest_ fun x here => ?_⟩
    rw [List.flatMap_singleton] at here
    exact apart x here

theorem recover_isolates (isHolding : Bool) (depthLeft : Nat) :
    Isolates bad value depthLeft (recover (.up bad value) isHolding depthLeft) := by
  induction depthLeft with
  | zero =>
    -- A failing group has a rejected register, which zero calls do not allow.
    intro g s pre post groups numbered one distinct failing few
    obtain ⟨r, inside, rejected⟩ := failing
    have positive : 0 < g.block.countP bad := List.countP_pos_iff.mpr ⟨r, inside, rejected⟩
    omega
  | succ depthLeft ih =>
    intro g s pre post groups numbered one distinct failing few
    obtain ⟨isolated, r, found, rejected, inside⟩ := isolateOneBadRegister_up value
      isHolding g g.registrarCount g.startRegister g.registrarCount s (Nat.le_refl _) failing
    obtain ⟨made, bisected⟩ := isolateOneBadRegister_bisected (.up bad value) isHolding g
      g.registrarCount g.startRegister g.registrarCount s (Nat.le_refl _)
    rw [found] at bisected
    obtain ⟨sameGroups, sameEnabled, sameNext, -⟩ := bisected.frame
    have searched : Kept pre post [g] s isolated [g] :=
      Kept.of_same groups numbered sameGroups sameEnabled sameNext
    have cut := split_kept isolated pre post g r searched.groups searched.numbered
    rw [recover_succ depthLeft g s isolated r found]
    -- One call for the register just found, the rest for the others.
    have fewer : ∀ n ∈ isolated.splitGroups g r, n.block.countP bad ≤ depthLeft := by
      intro n member
      have less := splitGroups_fewer isolated g r one rejected inside n member
      omega
    have separate : (((isolated.splitGroups g r).flatMap SensorGroup.sensors).map
        BaseSensor.id).Nodup := by
      rw [((splitGroups_sensors isolated g r).map BaseSensor.id).nodup_iff]
      exact ((List.filter_sublist.trans List.filter_sublist).map BaseSensor.id).nodup distinct
    have live : ∀ x ∈ (isolated.splitGroups g r).flatMap SensorGroup.sensors,
        (isolated.split g r).enabled x.id = true := by
      intro x member
      rw [split_enabled]
      exact ((splitGroups_mem isolated g r x).mp member).2.2
    obtain ⟨new, parts⟩ := readNewGroups_isolated isHolding depthLeft
      (recover (.up bad value) isHolding depthLeft) ih (isolated.splitGroups g r)
      (isolated.split g r) pre post cut.groups cut.numbered
      (splitGroups_oneBlock isolated g r one) fewer separate live
    exact ⟨new, Isolated.of_same searched sameEnabled (Isolated.of_split cut parts rejected distinct)⟩

/-- How a recovery of `g` should end: the sensors on bad registers are out, the others are
where they were, and every new group has been read. -/
structure BadSensorsOut (bad : Nat → Bool) (value : Nat → Nat → Nat) (pre post : List SensorGroup)
    (g : SensorGroup) (s : Recovery) (result : Recovery × List (SensorGroup × List Nat))
    (new : List SensorGroup) : Prop where
  groups : result.1.groups = pre ++ new ++ post
  disabled : ∀ x ∈ g.sensors, x.Touches bad →
    result.1.enabled x.id = false ∧ x ∉ result.1.groups.flatMap SensorGroup.sensors
  kept : ∀ x ∈ g.sensors, ¬ x.Touches bad → s.enabled x.id = true →
    result.1.enabled x.id = true ∧ (result.1.groups.flatMap SensorGroup.sensors).count x = 1
  others : ∀ x ∈ (pre ++ post).flatMap SensorGroup.sensors, result.1.enabled x.id = s.enabled x.id
  free : ∀ n ∈ new, ∀ r ∈ n.block, bad r = false
  returned : result.2.map Prod.fst = new
  read : ∀ p ∈ result.2, ∃ attempt, p.2 = p.1.block.map (value attempt)

theorem Kept.conserved {pre post old new : List SensorGroup} {s t : Recovery}
    (kept : Kept pre post old s t new) (groups : s.groups = pre ++ old ++ post) :
    (liveSensors t.enabled t.groups).Perm (liveSensors t.enabled s.groups) := by
  have middle := kept.live t.enabled fun _ on => on
  rw [kept.groups, groups, liveSensors_append, liveSensors_append, liveSensors_append,
    liveSensors_append]
  exact (middle.append_left _).append_right _

theorem count_liveSensors (enabled : Nat → Bool) (groups : List SensorGroup) (x : BaseSensor)
    (on : enabled x.id = true) :
    (liveSensors enabled groups).count x = (groups.flatMap SensorGroup.sensors).count x :=
  List.count_filter on

theorem Isolated.badSensorsOut {pre post new : List SensorGroup} {g : SensorGroup} {s : Recovery}
    {result : Recovery × List (SensorGroup × List Nat)}
    (isolated : Isolated bad value pre post [g] s result new)
    (groups : s.groups = pre ++ [g] ++ post) (once : s.ObjectsOnce) :
    BadSensorsOut bad value pre post g s result new := by
  have order : (s.groups.flatMap SensorGroup.sensors).Perm
      (g.sensors ++ (pre ++ post).flatMap SensorGroup.sensors) := by
    rw [groups]
    simpa using List.perm_append_comm_assoc (pre.flatMap SensorGroup.sensors) g.sensors
      (post.flatMap SensorGroup.sensors)
  have distinct := ((order.map BaseSensor.id).nodup_iff).mp once.sensors
  rw [List.map_append, List.nodup_append] at distinct
  have apart (x : BaseSensor) (here : x ∈ g.sensors) (y : BaseSensor)
      (there : y ∈ (pre ++ post).flatMap SensorGroup.sensors) : ¬ x.id = y.id :=
    distinct.2.2 x.id (List.mem_map_of_mem here) y.id (List.mem_map_of_mem there)
  refine ⟨isolated.groups, ?_, ?_, ?_, isolated.free, isolated.returned, isolated.read⟩
  · intro x member touches
    constructor
    · apply Bool.eq_false_iff.mpr
      intro on
      exact ((isolated.enabled x.id).mp on).2 x (by simpa using member) touches rfl
    · rw [isolated.groups, List.append_assoc,
        ((List.perm_append_comm_assoc pre new post).flatMap_right _).mem_iff, List.flatMap_append,
        List.mem_append]
      rintro (made | elsewhere)
      · exact ((isolated.sensors x).mp made).2.2 touches
      · exact apart x member x elsewhere rfl
  · intro x member clear on
    have live : result.1.enabled x.id = true := by
      refine (isolated.enabled x.id).mpr ⟨on, fun y other touches same => ?_⟩
      rw [List.flatMap_singleton] at other
      exact clear (List.inj_on_of_nodup_map distinct.1 other member same ▸ touches)
    refine ⟨live, ?_⟩
    -- Enabled sensors are conserved, and the controller had this one once.
    rw [← count_liveSensors result.1.enabled _ x live,
      (isolated.toKept.conserved groups).count_eq, count_liveSensors _ _ x live]
    exact List.count_eq_one_of_mem (once.sensors.of_map BaseSensor.id)
      (order.mem_iff.mpr (List.mem_append.mpr (.inl member)))
  · intro y there
    refine Bool.eq_iff_iff.mpr ((isolated.enabled y.id).trans ⟨fun h => h.1, fun on => ⟨on, ?_⟩⟩)
    intro x here _
    rw [List.flatMap_singleton] at here
    exact apart x here y there

/-- **Recovery isolates exactly the bad sensors.** Whatever the link does, no sensor that is
enabled in the end has been lost or duplicated. On a link that stays up, with at most 25
rejected registers in a group that forms one block, the sensors on these are out and every
other is read. -/
theorem recoverSensorGroup_isolates (s : Recovery) (isHolding : Bool) (pre post : List SensorGroup)
    (g : SensorGroup) (groups : s.groups = pre ++ [g] ++ post) (once : s.ObjectsOnce) :
    (∀ link : ModbusLink,
      (liveSensors (s.recoverSensorGroup link isHolding g).1.enabled
        (s.recoverSensorGroup link isHolding g).1.groups).Perm
      (liveSensors (s.recoverSensorGroup link isHolding g).1.enabled s.groups)) ∧
    ∀ (bad : Nat → Bool) (value : Nat → Nat → Nat), g.OneBlock → (∃ r ∈ g.block, bad r = true) →
      g.block.countP bad ≤ 25 → ∃ new, BadSensorsOut bad value pre post g s
        (s.recoverSensorGroup (.up bad value) isHolding g) new := by
  constructor
  · intro link
    obtain ⟨new, kept⟩ := recover_kept link isHolding (maxRegisterRecoveryDepth + 1) g s pre post
      groups once.toNumbered
    exact kept.conserved groups
  · intro bad value one failing few
    have distinct : (g.sensors.map BaseSensor.id).Nodup := by
      have inside : (g.sensors.map BaseSensor.id).Sublist
          ((s.groups.flatMap SensorGroup.sensors).map BaseSensor.id) := by
        apply List.Sublist.map
        apply List.sublist_flatten_of_mem
        apply List.mem_map_of_mem
        rw [groups]
        simp
      exact inside.nodup once.sensors
    obtain ⟨new, isolated⟩ := recover_isolates isHolding (maxRegisterRecoveryDepth + 1) g s pre post
      groups once.toNumbered one distinct failing few
    exact ⟨new, isolated.badSensorsOut groups once⟩

theorem fourSensors_oneBlock : fourSensors.OneBlock := by
  constructor
  · intro x member
    obtain ⟨r, -, rfl⟩ := List.mem_map.mp member
    exact ⟨r, 1, List.Perm.refl _⟩
  · exact List.Perm.refl _

theorem recoverSensorGroup_isolates_fourSensors :
    ∃ new, BadSensorsOut (fun r => r == 101 || r == 103) (fun _ r => r) [] [] fourSensors
      (start [fourSensors] (fun _ => true) 1)
      ((start [fourSensors] (fun _ => true) 1).recoverSensorGroup
        (.up (fun r => r == 101 || r == 103) fun _ r => r) false fourSensors) new :=
  (recoverSensorGroup_isolates (start [fourSensors] (fun _ => true) 1) false [] [] fourSensors rfl
    ⟨⟨by decide, by decide⟩, by decide⟩).2 (fun r => r == 101 || r == 103) (fun _ r => r)
    fourSensors_oneBlock ⟨101, by decide, rfl⟩ (by decide)

end Recovery

end HHModbus
