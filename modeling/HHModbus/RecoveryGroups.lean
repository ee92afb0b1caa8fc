import Mathlib.Data.List.Nodup
import Mathlib.Data.List.Perm.Subperm
import HHModbus.RecoveryLinkFailure

/-!
# What a recovery makes of the controller's groups

Whatever the link does, the groups that take the place of the old one stand where it stood
and hold its sensors, up to those that have been disabled by then.
-/
namespace HHModbus

/-- The enabled sensors of some groups. -/
def liveSensors (enabled : Nat → Bool) (groups : List SensorGroup) : List BaseSensor :=
  (groups.flatMap SensorGroup.sensors).filter fun x => enabled x.id

theorem liveSensors_append (enabled : Nat → Bool) (a b : List SensorGroup) :
    liveSensors enabled (a ++ b) = liveSensors enabled a ++ liveSensors enabled b := by
  simp [liveSensors]

/-- The sensors of the group are on contiguous ranges that together are its block. -/
structure SensorGroup.OneBlock (g : SensorGroup) : Prop where
  contiguous : ∀ x ∈ g.sensors, x.Contiguous
  tiled : Ranges.Tiles (registersOf g.sensors) g.startRegister g.registrarCount

theorem SensorGroup.registrarCount_eq (g : SensorGroup) :
    g.registrarCount = (registersOf g.sensors).length := by
  rw [registersOf, List.length_flatMap]
  rfl

/-- Sensors that tile any range tile the block that is read for them. -/
theorem SensorGroup.tiled_of_tiles (g : SensorGroup) (lo n : Nat)
    (tiles : Ranges.Tiles (registersOf g.sensors) lo n) :
    Ranges.Tiles (registersOf g.sensors) g.startRegister g.registrarCount := by
  have count : g.registrarCount = n := by rw [g.registrarCount_eq, tiles.length]
  by_cases empty : registersOf g.sensors = []
  · have none_ : n = 0 := by rw [← tiles.length, empty, List.length_nil]
    rw [count, none_, empty]
    exact List.Perm.refl _
  · have start : g.startRegister = lo := by
      rw [startRegister, List.min?_eq_some_min empty, Option.getD_some]
      exact tiles.min_eq empty
    rw [start, count]
    exact tiles

theorem SensorGroup.OneBlock.mem_block {g : SensorGroup} (one : g.OneBlock) {r : Nat} :
    r ∈ g.block ↔ ∃ x ∈ g.sensors, r ∈ x.registrars := by
  rw [block, ← List.Perm.mem_iff one.tiled, registersOf, List.mem_flatMap]

namespace Recovery

variable {link : ModbusLink} {isHolding : Bool}

/-- The controller has each group once, and no group it has is yet to be made. -/
structure Numbered (s : Recovery) : Prop where
  distinct : (s.groups.map SensorGroup.id).Nodup
  below : ∀ g ∈ s.groups, g.id < s.nextGroup

/-! ### The new groups -/

theorem newGroups_sensors (s : Recovery) (g : SensorGroup) (clusters : List (List BaseSensor)) :
    (s.newGroups g clusters).map SensorGroup.sensors = clusters := by
  rw [newGroups, List.map_map]
  exact List.zipIdx_map_fst _ clusters

theorem newGroups_ids (s : Recovery) (g : SensorGroup) (clusters : List (List BaseSensor)) :
    (s.newGroups g clusters).map SensorGroup.id = List.range' s.nextGroup clusters.length := by
  rw [newGroups, List.map_map]
  exact List.zipIdx_map_snd _ clusters

theorem newGroups_length (s : Recovery) (g : SensorGroup) (clusters : List (List BaseSensor)) :
    (s.newGroups g clusters).length = clusters.length := by
  rw [← List.length_map SensorGroup.sensors, newGroups_sensors]

theorem newGroups_flatMap (s : Recovery) (g : SensorGroup) (clusters : List (List BaseSensor)) :
    (s.newGroups g clusters).flatMap SensorGroup.sensors = clusters.flatten := by
  rw [List.flatMap_def, newGroups_sensors]

theorem newGroups_cluster (s : Recovery) (g : SensorGroup) (clusters : List (List BaseSensor))
    (n : SensorGroup) (member : n ∈ s.newGroups g clusters) : n.sensors ∈ clusters := by
  rw [← newGroups_sensors s g clusters]
  exact List.mem_map_of_mem member

/-- The old group is found where it stands, and nothing else moves. -/
theorem replaceSensorGroup_groups (s : Recovery) (pre post : List SensorGroup) (g : SensorGroup)
    (new : List SensorGroup) (groups : s.groups = pre ++ g :: post)
    (distinct : (s.groups.map SensorGroup.id).Nodup) :
    s.replaceSensorGroup g new = { s with groups := pre ++ new ++ post } := by
  -- The first group with its identity is itself.
  have absent : ∀ h ∈ pre, ¬ h.id = g.id := by
    intro h member same
    rw [groups, List.map_append, List.map_cons] at distinct
    apply List.disjoint_of_nodup_append distinct (List.mem_map_of_mem member)
    rw [same]
    exact List.mem_cons_self
  have index : s.groups.findIdx? (fun h => h.id == g.id) = some pre.length := by
    rw [groups, List.findIdx?_append, List.findIdx?_eq_none_iff.mpr (by simpa using absent)]
    simp [List.findIdx?_cons]
  have behind : (pre ++ g :: post).drop (pre.length + 1) = post := by simp [List.drop_append]
  rw [replaceSensorGroup, index]
  simp only [groups]
  rw [List.take_left, behind]

/-! ### Conservation -/

/-- From `s` to `t` groups of the controller have been replaced where they stood, by groups
with the same sensors up to those that are disabled by then. -/
structure Kept (pre post old : List SensorGroup) (s t : Recovery) (new : List SensorGroup) : Prop where
  groups : t.groups = pre ++ new ++ post
  numbered : t.Numbered
  disables : ∀ id, t.enabled id = true → s.enabled id = true
  fewer : (new.flatMap SensorGroup.sensors).Subperm (old.flatMap SensorGroup.sensors)
  live : ∀ enabled : Nat → Bool, (∀ id, enabled id = true → t.enabled id = true) →
    (liveSensors enabled new).Perm (liveSensors enabled old)

theorem Kept.of_same {pre post old : List SensorGroup} {s t : Recovery}
    (groups : s.groups = pre ++ old ++ post) (numbered : s.Numbered) (same : t.groups = s.groups)
    (enabled : t.enabled = s.enabled) (next : t.nextGroup = s.nextGroup) :
    Kept pre post old s t old where
  groups := same.trans groups
  numbered := ⟨same ▸ numbered.distinct, by rw [same, next]; exact numbered.below⟩
  disables id on := enabled ▸ on
  fewer := List.Subperm.refl _
  live _ _ := List.Perm.refl _

/-- The replacement of one group is followed by that of the groups put in its place. -/
theorem Kept.trans {pre post a b c : List SensorGroup} {s t u : Recovery}
    (first : Kept pre post a s t b) (second : Kept pre post b t u c) : Kept pre post a s u c where
  groups := second.groups
  numbered := second.numbered
  disables id on := first.disables id (second.disables id on)
  fewer := second.fewer.trans first.fewer
  live enabled below := (second.live enabled below).trans
    (first.live enabled fun id on => second.disables id (below id on))

/-- Two neighbours are replaced one after the other. -/
theorem Kept.beside {pre post a b a' b' : List SensorGroup} {s t u : Recovery}
    (first : Kept pre (b ++ post) a s t a') (second : Kept (pre ++ a') post b t u b') :
    Kept pre post (a ++ b) s u (a' ++ b') where
  groups := by rw [second.groups, List.append_assoc pre]
  numbered := second.numbered
  disables id on := first.disables id (second.disables id on)
  fewer := by
    rw [List.flatMap_append, List.flatMap_append]
    exact first.fewer.append second.fewer
  live enabled below := by
    rw [liveSensors_append, liveSensors_append]
    have left := first.live enabled fun id on => second.disables id (below id on)
    exact left.append (second.live enabled below)

/-- The state in which a recovery has disabled the sensors on the bad register. -/
def disableOn (s : Recovery) (g : SensorGroup) (bad : Nat) : Recovery :=
  s.disable (g.sensors.filter fun x => bad ∈ x.registrars)

/-- The groups it makes of the others. -/
def splitGroups (s : Recovery) (g : SensorGroup) (bad : Nat) : List SensorGroup :=
  (s.disableOn g bad).newGroups g
    (clusterSensors (s.disableOn g bad).enabled (g.sensors.filter fun x => bad ∉ x.registrars))

/-- The state in which it has put them in the old group's place. -/
def split (s : Recovery) (g : SensorGroup) (bad : Nat) : Recovery :=
  replaceSensorGroup
    { s.disableOn g bad with nextGroup := s.nextGroup + (s.splitGroups g bad).length } g
    (s.splitGroups g bad)

theorem recover_succ (depthLeft : Nat) (g : SensorGroup) (s isolated : Recovery) (bad : Nat)
    (found : isolateOneBadRegister link isHolding g g.registrarCount g.startRegister
      g.registrarCount s = (isolated, some bad)) :
    recover link isHolding (depthLeft + 1) g s =
      readNewGroups link isHolding (recover link isHolding depthLeft) (isolated.splitGroups g bad)
        (isolated.split g bad) := by
  rw [recover, found]
  rfl

theorem disableOn_enabled (s : Recovery) (g : SensorGroup) (bad id : Nat) :
    (s.disableOn g bad).enabled id = true ↔
      s.enabled id = true ∧ ∀ x ∈ g.sensors, bad ∈ x.registrars → ¬ x.id = id := by
  simp [disableOn, disable]

theorem split_enabled (s : Recovery) (g : SensorGroup) (bad : Nat) :
    (s.split g bad).enabled = (s.disableOn g bad).enabled := by
  unfold split replaceSensorGroup
  split <;> rfl

/-- The sensors of the new groups are the enabled ones off the bad register. -/
theorem splitGroups_sensors (s : Recovery) (g : SensorGroup) (bad : Nat) :
    ((s.splitGroups g bad).flatMap SensorGroup.sensors).Perm
      ((g.sensors.filter fun x => bad ∉ x.registrars).filter fun x =>
        (s.disableOn g bad).enabled x.id) := by
  rw [splitGroups, newGroups_flatMap]
  exact clusterSensors_perm _ _

theorem splitGroups_live (s : Recovery) (g : SensorGroup) (bad : Nat) (enabled : Nat → Bool)
    (below : ∀ id, enabled id = true → (s.disableOn g bad).enabled id = true) :
    (liveSensors enabled (s.splitGroups g bad)).Perm (liveSensors enabled [g]) := by
  have kept := (splitGroups_sensors s g bad).filter fun x => enabled x.id
  have same : ((g.sensors.filter fun x => bad ∉ x.registrars).filter fun x =>
      (s.disableOn g bad).enabled x.id).filter (fun x => enabled x.id) =
      g.sensors.filter fun x => enabled x.id := by
    rw [List.filter_filter, List.filter_filter]
    apply List.filter_congr
    intro x member
    cases on : enabled x.id with
    | false => rfl
    | true =>
      have live := below x.id on
      -- An enabled sensor is none of those that were just disabled.
      have off : bad ∉ x.registrars := by
        intro uses
        exact ((disableOn_enabled s g bad x.id).mp live).2 x member uses rfl
      simp [live, off]
  rw [same] at kept
  simpa [liveSensors] using kept

/-- Fresh groups in the place of an old one keep the controller's groups numbered. -/
theorem Numbered.replace {s t : Recovery} {pre post new : List SensorGroup} {g : SensorGroup}
    (numbered : s.Numbered) (groups : s.groups = pre ++ g :: post)
    (fresh : new.map SensorGroup.id = List.range' s.nextGroup new.length)
    (placed : t.groups = pre ++ new ++ post) (next : t.nextGroup = s.nextGroup + new.length) :
    t.Numbered := by
  have others : (pre ++ post).Sublist s.groups := by
    rw [groups]
    exact (List.Sublist.refl pre).append (List.sublist_cons_self g post)
  have freshId (h : SensorGroup) (member : h ∈ new) :
      s.nextGroup ≤ h.id ∧ h.id < s.nextGroup + new.length := by
    rw [← List.mem_range'_1, ← fresh]
    exact List.mem_map_of_mem member
  -- For the identities the order does not matter.
  have order : t.groups.Perm (new ++ (pre ++ post)) := by
    rw [placed, List.append_assoc]
    exact List.perm_append_comm_assoc pre new post
  constructor
  · rw [(order.map SensorGroup.id).nodup_iff, List.map_append, List.nodup_append]
    refine ⟨?_, (others.map _).nodup numbered.distinct, ?_⟩
    · rw [fresh]
      exact List.nodup_range'
    · intro a made b old same
      obtain ⟨m, member, rfl⟩ := List.mem_map.mp made
      obtain ⟨h, kept, rfl⟩ := List.mem_map.mp old
      have young := freshId m member
      have known := numbered.below h (others.subset kept)
      omega
  · intro h member
    rw [next]
    rcases List.mem_append.mp (order.mem_iff.mp member) with made | old
    · exact (freshId h made).2
    · have known := numbered.below h (others.subset old)
      omega

theorem split_groups (s : Recovery) (pre post : List SensorGroup) (g : SensorGroup) (bad : Nat)
    (groups : s.groups = pre ++ g :: post) (numbered : s.Numbered) :
    (s.split g bad).groups = pre ++ s.splitGroups g bad ++ post ∧
      (s.split g bad).nextGroup = s.nextGroup + (s.splitGroups g bad).length := by
  have moved := replaceSensorGroup_groups
    { s.disableOn g bad with nextGroup := s.nextGroup + (s.splitGroups g bad).length } pre post g
    (s.splitGroups g bad) groups numbered.distinct
  rw [split, moved]
  exact ⟨rfl, rfl⟩

theorem split_kept (s : Recovery) (pre post : List SensorGroup) (g : SensorGroup) (bad : Nat)
    (groups : s.groups = pre ++ [g] ++ post) (numbered : s.Numbered) :
    Kept pre post [g] s (s.split g bad) (s.splitGroups g bad) := by
  have groups : s.groups = pre ++ g :: post := by simpa using groups
  obtain ⟨placed, next⟩ := split_groups s pre post g bad groups numbered
  have fresh : (s.splitGroups g bad).map SensorGroup.id =
      List.range' s.nextGroup (s.splitGroups g bad).length := by
    rw [splitGroups, newGroups_ids, newGroups_length]
    rfl
  refine ⟨placed, numbered.replace groups fresh placed next, ?_, ?_, ?_⟩
  · intro id on
    rw [split_enabled, disableOn_enabled] at on
    exact on.1
  · rw [List.flatMap_singleton]
    exact (splitGroups_sensors s g bad).subperm.trans
      (List.filter_sublist.trans List.filter_sublist).subperm
  · rw [split_enabled]
    exact splitGroups_live s g bad

/-- The loop over groups that stand side by side, if a recovery of each keeps its sensors. -/
theorem readNewGroups_kept (link : ModbusLink) (isHolding : Bool)
    (nested : SensorGroup → Recovery → Recovery × List (SensorGroup × List Nat))
    (recovers : ∀ g s pre post, s.groups = pre ++ [g] ++ post → s.Numbered →
      ∃ new, Kept pre post [g] s (nested g s).1 new)
    (groups : List SensorGroup) (s : Recovery) (pre post : List SensorGroup)
    (placed : s.groups = pre ++ groups ++ post) (numbered : s.Numbered) :
    ∃ new, Kept pre post groups s (readNewGroups link isHolding nested groups s).1 new := by
  induction groups generalizing s pre with
  | nil => exact ⟨[], Kept.of_same placed numbered rfl rfl rfl⟩
  | cons g rest ih =>
    -- The groups still to be read are neighbours like those behind them.
    have here : s.groups = pre ++ [g] ++ (rest ++ post) := by simpa using placed
    have first : ∃ new, Kept pre (rest ++ post) [g] s (s.readNewGroup link isHolding nested g).1 new := by
      have read : Kept pre (rest ++ post) [g] s s.attempted [g] :=
        Kept.of_same here numbered rfl rfl rfl
      rcases readNewGroup_cases link isHolding nested s g with
        ⟨v, -, same⟩ | ⟨code, -, -, same⟩ | same
      · rw [same]
        exact ⟨[g], read⟩
      · rw [same]
        obtain ⟨new, recovered⟩ := recovers g s.attempted pre (rest ++ post) read.groups read.numbered
        exact ⟨new, read.trans recovered⟩
      · rw [same]
        exact ⟨[g], read⟩
    obtain ⟨new, one⟩ := first
    obtain ⟨others, more⟩ := ih _ (pre ++ new) (by rw [one.groups, List.append_assoc (pre ++ new)])
      one.numbered
    exact ⟨new ++ others, one.beside more⟩

/-- Whatever the link does, a recovery keeps the sensors that stay enabled. -/
theorem recover_kept (link : ModbusLink) (isHolding : Bool) (depthLeft : Nat) (g : SensorGroup)
    (s : Recovery) (pre post : List SensorGroup) (groups : s.groups = pre ++ [g] ++ post)
    (numbered : s.Numbered) :
    ∃ new, Kept pre post [g] s (recover link isHolding depthLeft g s).1 new := by
  induction depthLeft generalizing g s pre post with
  | zero => exact ⟨[g], Kept.of_same groups numbered rfl rfl rfl⟩
  | succ depthLeft ih =>
    obtain ⟨made, bisected⟩ := isolateOneBadRegister_bisected link isHolding g g.registrarCount
      g.startRegister g.registrarCount s (Nat.le_refl _)
    cases found : isolateOneBadRegister link isHolding g g.registrarCount g.startRegister
      g.registrarCount s with
    | mk isolated result =>
      rw [found] at bisected
      have searched : Kept pre post [g] s isolated [g] :=
        Kept.of_same groups numbered bisected.frame.1 bisected.frame.2.1 bisected.frame.2.2.1
      cases result with
      | none =>
        -- No register was found, and the group stays as it is.
        refine ⟨[g], ?_⟩
        rw [recover, found]
        exact searched
      | some bad =>
        rw [recover_succ depthLeft g s isolated bad found]
        have cut := split_kept isolated pre post g bad searched.groups searched.numbered
        obtain ⟨new, read⟩ := readNewGroups_kept link isHolding (recover link isHolding depthLeft) ih
          (isolated.splitGroups g bad) (isolated.split g bad) pre post cut.groups cut.numbered
        exact ⟨new, searched.trans (cut.trans read)⟩

/-- The controller has each group object and each sensor object once. -/
structure ObjectsOnce (s : Recovery) : Prop extends Numbered s where
  sensors : ((s.groups.flatMap SensorGroup.sensors).map BaseSensor.id).Nodup

/-- That no object is listed twice is itself kept by every recovery of one of the groups. -/
theorem recoverSensorGroup_objectsOnce (link : ModbusLink) (isHolding : Bool) (s : Recovery)
    (g : SensorGroup) (member : g ∈ s.groups) (once : s.ObjectsOnce) :
    (s.recoverSensorGroup link isHolding g).1.ObjectsOnce := by
  obtain ⟨pre, post, groups⟩ := List.append_of_mem member
  have placed : s.groups = pre ++ [g] ++ post := by simpa using groups
  obtain ⟨new, kept⟩ := recover_kept link isHolding (maxRegisterRecoveryDepth + 1) g s pre post placed
    once.toNumbered
  refine ⟨kept.numbered, ?_⟩
  have fewer : ((pre ++ new ++ post).flatMap SensorGroup.sensors).Subperm
      (s.groups.flatMap SensorGroup.sensors) := by
    simp only [placed, List.flatMap_append]
    exact ((List.Subperm.refl _).append kept.fewer).append (List.Subperm.refl _)
  obtain ⟨l, same, sub⟩ := fewer
  rw [recoverSensorGroup, kept.groups, ← (same.map BaseSensor.id).nodup_iff]
  exact (sub.map BaseSensor.id).nodup once.sensors

end Recovery

end HHModbus
