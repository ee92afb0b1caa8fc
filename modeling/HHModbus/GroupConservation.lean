import HHModbus.Lib.Interference
import HHModbus.PollTraffic
import HHModbus.RecoveryGroups

/-!
# No sensor drops out of the polls

Batches of several speeds work on copies of the controller's group list, recover groups that another
batch may have replaced by then, and remove one-shot groups at their end. Whatever the order, every
sensor that stays enabled stays in one group of the controller, polled as it was at the start; the
only groups that leave are one-shot groups whose block has been read.
-/
namespace HHModbus

open Transition Cooperative Tables

/-- The read of the group's block. -/
def SensorGroup.request (g : SensorGroup) : ReadRequest :=
  ⟨g.startRegister, g.registrarCount, decide (g.registerType = .holding)⟩

/-- The read of the group's block has been answered in full. -/
def SensorGroup.WasRead (g : SensorGroup) (heard : List (ReadRequest × Reply)) : Prop :=
  ∃ values, (g.request, .values values) ∈ heard ∧ values.length = g.registrarCount

/-- How the sensors of a group are polled. -/
def SensorGroup.manner (g : SensorGroup) : PollSpeed × Option String × RegisterType :=
  (g.pollSpeed, g.identification, g.registerType)

/-- The enabled sensors of some groups, each with the way it is polled. -/
def polled (enabled : Nat → Bool) (groups : List SensorGroup) :
    List (BaseSensor × PollSpeed × Option String × RegisterType) :=
  groups.flatMap fun g => (liveSensors enabled [g]).map fun x => (x, g.manner)

theorem polled_append (enabled : Nat → Bool) (a b : List SensorGroup) :
    polled enabled (a ++ b) = polled enabled a ++ polled enabled b := List.flatMap_append

/-- With fewer sensors enabled, fewer are polled. -/
theorem polled_filter {enabled fewer : Nat → Bool} (sub : ∀ id, fewer id = true → enabled id = true)
    (groups : List SensorGroup) :
    polled fewer groups = (polled enabled groups).filter fun x => fewer x.1.id := by
  -- It holds of the sensors of one group, and the groups are polled one after the other.
  have one (g : SensorGroup) : liveSensors fewer [g] =
      (liveSensors enabled [g]).filter fun x => fewer x.id := by
    simp only [liveSensors, List.filter_filter]
    apply List.filter_congr
    intro x _
    cases on : fewer x.id with
    | false => rfl
    | true => rw [sub x.id on, Bool.and_self]
  induction groups with
  | nil => rfl
  | cons g rest ih =>
    simp only [polled, List.flatMap_cons, List.filter_append] at ih ⊢
    rw [ih, one g, List.filter_map]
    rfl

/-- Groups that are polled in the same manner are polled as one. -/
theorem polled_manner (enabled : Nat → Bool) {g : SensorGroup} {new : List SensorGroup}
    (manner : ∀ n ∈ new, n.manner = g.manner) :
    polled enabled new = (liveSensors enabled new).map fun x => (x, g.manner) := by
  induction new with
  | nil => rfl
  | cons n rest ih =>
    rw [← List.singleton_append, polled_append, liveSensors_append, List.map_append,
      ih fun m member => manner m (List.mem_cons_of_mem n member)]
    simp [polled, manner n List.mem_cons_self]

namespace Recovery

/-- A group object that the controller has or had: no other of its groups is this object, and none
will be. -/
structure Owns (s : Recovery) (g : SensorGroup) : Prop where
  known : g.id < s.nextGroup
  same : ∀ h ∈ s.groups, h.id = g.id → h = g

theorem Numbered.owns {s : Recovery} (numbered : s.Numbered) {g : SensorGroup}
    (member : g ∈ s.groups) : s.Owns g where
  known := numbered.below g member
  same _ there eq := List.inj_on_of_nodup_map numbered.distinct there member eq

/-- What any batch may do to the groups: from `s` to `t` the controller loses no enabled sensor but
those of one-shot groups whose block has been read. -/
structure Regrouped (heard : List (ReadRequest × Reply)) (s t : Recovery) : Prop where
  next : s.nextGroup ≤ t.nextGroup
  fresh : ∀ g ∈ t.groups, g ∈ s.groups ∨ s.nextGroup ≤ g.id
  numbered : s.Numbered → t.Numbered
  disables : ∀ id, t.enabled id = true → s.enabled id = true
  kept : ∃ removed : List SensorGroup,
    (∀ g ∈ removed, g.pollSpeed = .once ∧ g.WasRead heard) ∧
      (polled t.enabled (t.groups ++ removed)).Perm (polled t.enabled s.groups)

theorem Regrouped.of_same {heard : List (ReadRequest × Reply)} {s t : Recovery}
    (groups : t.groups = s.groups) (enabled : t.enabled = s.enabled)
    (next : t.nextGroup = s.nextGroup) : Regrouped heard s t where
  next := Nat.le_of_eq next.symm
  fresh g member := .inl (groups ▸ member)
  numbered numbered := ⟨groups ▸ numbered.distinct, by rw [groups, next]; exact numbered.below⟩
  disables id on := enabled ▸ on
  kept := ⟨[], by simp, by rw [List.append_nil, groups]⟩

theorem Regrouped.trans {heard : List (ReadRequest × Reply)} {s t u : Recovery}
    (first : Regrouped heard s t) (second : Regrouped heard t u) : Regrouped heard s u where
  next := Nat.le_trans first.next second.next
  fresh g member := by
    rcases second.fresh g member with old | new
    · exact first.fresh g old
    · exact .inr (Nat.le_trans first.next new)
  numbered numbered := second.numbered (first.numbered numbered)
  disables id on := first.disables id (second.disables id on)
  kept := by
    obtain ⟨gone, goneOnce, kept⟩ := first.kept
    obtain ⟨gone', goneOnce', kept'⟩ := second.kept
    refine ⟨gone' ++ gone, ?_, ?_⟩
    · intro g member
      rcases List.mem_append.mp member with later | earlier
      · exact goneOnce' g later
      · exact goneOnce g earlier
    · -- What the first change kept, as far as the second one leaves it enabled.
      have before := kept.filter fun x => u.enabled x.1.id
      rw [← polled_filter second.disables, ← polled_filter second.disables, polled_append] at before
      rw [← List.append_assoc, polled_append]
      exact (kept'.append_right _).trans before

theorem Regrouped.mono {heard heard' : List (ReadRequest × Reply)} {s t : Recovery}
    (sub : heard ⊆ heard') (moved : Regrouped heard s t) : Regrouped heard' s t where
  next := moved.next
  fresh := moved.fresh
  numbered := moved.numbered
  disables := moved.disables
  kept := by
    obtain ⟨gone, goneOnce, kept⟩ := moved.kept
    refine ⟨gone, fun g member => ?_, kept⟩
    obtain ⟨once, values, answered, full⟩ := goneOnce g member
    exact ⟨once, values, sub answered, full⟩

/-- The discipline of the poll batches. -/
def batchDiscipline : Discipline Recovery ReadRequest Reply where
  allows := Regrouped
  refl _ _ := Regrouped.of_same rfl rfl rfl
  trans := Regrouped.trans
  mono := Regrouped.mono

theorem Owns.moved {heard : List (ReadRequest × Reply)} {s t : Recovery} {g : SensorGroup}
    (owns : s.Owns g) (moved : Regrouped heard s t) : t.Owns g where
  known := Nat.lt_of_lt_of_le owns.known moved.next
  same h there eq := by
    -- A group that has come since has a number that was not given yet.
    rcases moved.fresh h there with old | new
    · exact owns.same h old eq
    · have known := owns.known
      omega

/-- What a batch knows of the groups it has still to read and of those it has marked. -/
structure Known (held marked : List SensorGroup) (heard : List (ReadRequest × Reply))
    (s : Recovery) : Prop where
  numbered : s.Numbered
  held : ∀ g ∈ held, s.Owns g
  marked : ∀ g ∈ marked, s.Owns g ∧ g.pollSpeed = .once ∧ g.WasRead heard

theorem Known.weaken {held marked : List SensorGroup} {heard : List (ReadRequest × Reply)}
    {s : Recovery} (known : Known held marked heard s) : Known [] marked heard s :=
  ⟨known.numbered, by simp, known.marked⟩

theorem stable_known (held marked : List SensorGroup) :
    batchDiscipline.Stable (Known held marked) := by
  intro heard heard' s t sub moved known
  refine ⟨moved.numbered known.numbered, fun g member => (known.held g member).moved moved, ?_⟩
  intro g member
  obtain ⟨owns, once, values, answered, full⟩ := known.marked g member
  exact ⟨owns.moved moved, once, values, sub answered, full⟩

/-! ### A split -/

theorem split_next (s : Recovery) (g : SensorGroup) (bad : Nat) :
    (s.split g bad).nextGroup = s.nextGroup + (s.splitGroups g bad).length := by
  unfold split replaceSensorGroup
  split <;> rfl

theorem splitGroups_id (s : Recovery) (g : SensorGroup) (bad : Nat) :
    (s.splitGroups g bad).map SensorGroup.id =
      List.range' s.nextGroup (s.splitGroups g bad).length := by
  rw [splitGroups, newGroups_ids, newGroups_length]
  rfl

theorem mem_splitGroups_id {s : Recovery} {g n : SensorGroup} {bad : Nat}
    (member : n ∈ s.splitGroups g bad) :
    s.nextGroup ≤ n.id ∧ n.id < s.nextGroup + (s.splitGroups g bad).length := by
  rw [← List.mem_range'_1, ← splitGroups_id]
  exact List.mem_map_of_mem member

theorem splitGroups_manner {s : Recovery} {g n : SensorGroup} {bad : Nat}
    (member : n ∈ s.splitGroups g bad) : n.manner = g.manner := by
  obtain ⟨c, -, rfl⟩ := List.mem_map.mp member
  rfl

/-- The controller no longer has the group that was to be split. -/
theorem split_stale {s : Recovery} {g : SensorGroup} (owns : s.Owns g) (gone : g ∉ s.groups)
    (bad : Nat) : (s.split g bad).groups = s.groups := by
  -- Identities are compared, and no other group has this one.
  have absent : s.groups.findIdx? (fun h => h.id == g.id) = none := by
    rw [List.findIdx?_eq_none_iff]
    intro h there
    rw [beq_eq_false_iff_ne]
    intro eq
    exact gone (owns.same h there eq ▸ there)
  unfold split replaceSensorGroup
  dsimp only [disableOn, disable]
  rw [absent]

/-- Where the new groups stand, if they do. -/
theorem split_cases (s : Recovery) (numbered : s.Numbered) (g : SensorGroup) (owns : s.Owns g)
    (bad : Nat) :
    (∃ pre post, s.groups = pre ++ g :: post ∧
      (s.split g bad).groups = pre ++ s.splitGroups g bad ++ post) ∨
    (s.split g bad).groups = s.groups := by
  by_cases there : g ∈ s.groups
  · obtain ⟨pre, post, groups⟩ := List.append_of_mem there
    exact .inl ⟨pre, post, groups, (split_groups s pre post g bad groups numbered).1⟩
  · exact .inr (split_stale owns there bad)

/-- A split is allowed, of a group that the controller still has and of one it has no longer. -/
theorem split_regrouped (heard : List (ReadRequest × Reply)) (s : Recovery) (numbered : s.Numbered)
    (g : SensorGroup) (owns : s.Owns g) (bad : Nat) : Regrouped heard s (s.split g bad) := by
  have next := split_next s g bad
  have disables : ∀ id, (s.split g bad).enabled id = true → s.enabled id = true := by
    intro id on
    rw [split_enabled, disableOn_enabled] at on
    exact on.1
  rcases split_cases s numbered g owns bad with ⟨pre, post, groups, placed⟩ | same
  · refine ⟨by omega, ?_, ?_, disables, [], by simp, ?_⟩
    · intro h member
      rw [placed] at member
      rw [groups]
      simp only [List.mem_append, List.mem_cons] at member ⊢
      rcases member with (front | new) | back
      · exact .inl (.inl front)
      · exact .inr (mem_splitGroups_id new).1
      · exact .inl (.inr (.inr back))
    · intro _
      exact numbered.replace groups (splitGroups_id s g bad) placed next
    · -- The new groups have the live sensors of the old one.
      have live := (splitGroups_live s g bad (s.split g bad).enabled (by rw [split_enabled]; simp)).map
        fun x => (x, g.manner)
      rw [← polled_manner _ fun n => splitGroups_manner] at live
      rw [List.append_nil, placed, groups, ← List.singleton_append]
      simp only [polled_append, List.append_assoc]
      apply List.Perm.append_left
      apply List.Perm.append_right
      simpa [polled] using live
  · refine ⟨by omega, fun h member => .inl (same ▸ member), ?_, disables, [], by simp, by simp [same]⟩
    intro _
    refine ⟨same ▸ numbered.distinct, fun h member => ?_⟩
    have below := numbered.below h (same ▸ member)
    omega

/-- The batch knows the groups it has made. -/
theorem splitGroups_owned (s : Recovery) (numbered : s.Numbered) (g : SensorGroup) (owns : s.Owns g)
    (bad : Nat) (n : SensorGroup) (member : n ∈ s.splitGroups g bad) : (s.split g bad).Owns n := by
  have id := mem_splitGroups_id member
  refine ⟨by rw [split_next]; exact id.2, fun h there eq => ?_⟩
  -- The new groups are numbered one after the other, above all old ones.
  have distinct : ((s.splitGroups g bad).map SensorGroup.id).Nodup := by
    rw [splitGroups_id]
    exact List.nodup_range'
  have old (h : SensorGroup) (there : h ∈ s.groups) (eq : h.id = n.id) : h = n := by
    have below := numbered.below h there
    omega
  rcases split_cases s numbered g owns bad with ⟨pre, post, groups, placed⟩ | same
  · rw [placed, List.mem_append, List.mem_append] at there
    rcases there with (front | new) | back
    · exact old h (by simp [groups, front]) eq
    · exact List.inj_on_of_nodup_map distinct new member eq
    · exact old h (by simp [groups, back]) eq
  · exact old h (same ▸ there) eq

end Recovery

open Recovery

/-! ### The programs of the batches -/

namespace Poll

variable {heard : List (ReadRequest × Reply)} {s : Recovery}

theorem respects_readRegisterBlockWithException (isHolding : Bool) (g : SensorGroup)
    (heard : List (ReadRequest × Reply)) (s : Recovery) :
    (readRegisterBlockWithException isHolding g).Respects batchDiscipline
      (fun heard' result _ => ∀ v, result.1 = some v →
        (⟨g.startRegister, g.registrarCount, isHolding⟩, .values v) ∈ heard') heard s := by
  have nothing (heard' : List (ReadRequest × Reply)) (t : Recovery) :
      skipped.Respects batchDiscipline (fun heard' result _ => ∀ v, result.1 = some v →
        ((⟨g.startRegister, g.registrarCount, isHolding⟩ : ReadRequest), Reply.values v) ∈ heard')
        heard' t :=
    ⟨Regrouped.of_same rfl rfl rfl, fun v none_ => by cases none_⟩
  -- The read is skipped if polling is off, or if the link cannot be opened.
  intro open_
  cases open_ with
  | false => exact nothing heard s
  | true =>
    intro up heard' t _ _
    cases up with
    | false => exact nothing heard' t
    | true =>
      intro reply heard'' u _ _ v result
      cases reply with
      | values registers =>
        cases result
        simp
      | exception code => cases result
      | unanswered => cases result

theorem respects_probeRegisterBlockQuiet (isHolding : Bool) (g : SensorGroup) (start count : Nat) :
    (probeRegisterBlockQuiet isHolding g start count).Respects batchDiscipline
      (fun _ _ _ => True) heard s := by
  unfold probeRegisterBlockQuiet
  split
  · trivial
  · intro reply heard' t _ _
    exact ⟨Regrouped.of_same rfl rfl rfl, trivial⟩

theorem respects_probeEach (isHolding : Bool) (g : SensorGroup) (registers : List Nat) :
    (probeEach isHolding g registers).Respects batchDiscipline (fun _ _ _ => True) heard s := by
  induction registers generalizing heard s with
  | nil => trivial
  | cons r rest ih =>
    apply (respects_probeRegisterBlockQuiet isHolding g r 1).bind
    intro heard' ok t _
    cases ok with
    | false => trivial
    | true => exact ih

theorem respects_isolateOneBadRegister (isHolding : Bool) (g : SensorGroup)
    (rounds start count : Nat) (heard : List (ReadRequest × Reply)) (s : Recovery) :
    (isolateOneBadRegister isHolding g rounds start count).Respects batchDiscipline
      (fun _ _ _ => True) heard s := by
  induction rounds generalizing start count heard s with
  | zero => trivial
  | succ rounds ih =>
    rw [isolateOneBadRegister]
    split
    · trivial
    · split
      · trivial
      · apply (respects_probeRegisterBlockQuiet isHolding g _ _).bind
        intro heard' left t _
        cases left with
        | false => exact ih _ _ _ _
        | true =>
          -- The half whose probe fails is searched; if neither fails, each register is probed.
          apply (respects_probeRegisterBlockQuiet isHolding g _ _).bind
          intro heard'' right u _
          cases right with
          | false => exact ih _ _ _ _
          | true => exact respects_probeEach isHolding g _

/-- The groups of a result are known, and have been read in full. -/
def ReadGroups (groups : List (SensorGroup × List Nat)) (heard : List (ReadRequest × Reply))
    (s : Recovery) : Prop := ∀ x ∈ groups, s.Owns x.1 ∧ x.1.WasRead heard

theorem stable_readGroups (groups : List (SensorGroup × List Nat)) :
    batchDiscipline.Stable (ReadGroups groups) := by
  intro heard heard' s t sub moved known x member
  obtain ⟨owns, values, answered, full⟩ := known x member
  exact ⟨owns.moved moved, values, sub answered, full⟩

variable {isHolding : Bool} {nested : SensorGroup → Poll (List (SensorGroup × List Nat))}

/-- What is needed of a recovery of one of the new groups. -/
def Recovers (isHolding : Bool) (nested : SensorGroup → Poll (List (SensorGroup × List Nat))) : Prop :=
  ∀ g heard s, isHolding = decide (g.registerType = .holding) → Known [g] [] heard s →
    (nested g).Respects batchDiscipline (fun heard' result t => ReadGroups result heard' t) heard s

theorem respects_readNewGroup (recovers : Recovers isHolding nested) (g : SensorGroup)
    (space : isHolding = decide (g.registerType = .holding)) (known : Known [g] [] heard s) :
    (readNewGroup isHolding nested g).Respects batchDiscipline
      (fun heard' result t => ReadGroups result heard' t) heard s := by
  have read := (respects_readRegisterBlockWithException isHolding g heard s).frame (stable_known [g] []) known
  apply read.bind
  rintro heard' ⟨vals, exc⟩ t ⟨answered, known⟩
  dsimp only at answered ⊢
  -- An answer that is too short counts as none.
  cases full : vals.filter fun v => v.length == g.registrarCount with
  | none =>
    dsimp only
    split
    · exact recovers g heard' t space known
    · exact fun x member => absurd member List.not_mem_nil
  | some v =>
    obtain ⟨present, length⟩ := Option.filter_eq_some_iff.mp full
    intro x member
    rw [List.mem_singleton.mp member]
    refine ⟨known.held g List.mem_cons_self, v, ?_, by simpa using length⟩
    rw [SensorGroup.request, ← space]
    exact answered v present

theorem respects_readNewGroups (recovers : Recovers isHolding nested) (groups : List SensorGroup)
    (space : ∀ g ∈ groups, isHolding = decide (g.registerType = .holding))
    (known : Known groups [] heard s) :
    (readNewGroups isHolding nested groups).Respects batchDiscipline
      (fun heard' result t => ReadGroups result heard' t) heard s := by
  induction groups generalizing heard s with
  | nil => exact fun x member => absurd member List.not_mem_nil
  | cons g rest ih =>
    have here : Known [g] [] heard s := by
      refine ⟨known.numbered, fun h member => ?_, by simp⟩
      rw [List.mem_singleton.mp member]
      exact known.held g List.mem_cons_self
    have others : Known rest [] heard s :=
      ⟨known.numbered, fun h member => known.held h (List.mem_cons_of_mem g member), by simp⟩
    -- While the first group is read, what is known of the others has to stay known.
    have first := (respects_readNewGroup recovers g (space g List.mem_cons_self) here).frame
      (stable_known rest []) others
    apply first.bind
    rintro heard' one t ⟨readOne, others⟩
    have later := (ih (fun h member => space h (List.mem_cons_of_mem g member)) others).frame
      (stable_readGroups one) readOne
    apply later.bind
    rintro heard'' more u ⟨readMore, readOne⟩ x member
    rcases List.mem_append.mp member with old | new
    · exact readOne x old
    · exact readMore x new

/-- A recovery makes allowed changes, whatever has become of its group in the meantime. -/
theorem recovers_recover (isHolding : Bool) (depthLeft : Nat) :
    Recovers isHolding (recover isHolding depthLeft) := by
  induction depthLeft with
  | zero => exact fun g heard s _ _ x member => absurd member List.not_mem_nil
  | succ depthLeft ih =>
    intro g heard s space known
    -- Others may split or remove the group while the bad register is looked for.
    have isolated := (respects_isolateOneBadRegister isHolding g g.registrarCount g.startRegister
      g.registrarCount heard s).frame (stable_known [g] []) known
    apply isolated.bind
    rintro heard' bad t ⟨-, known⟩
    cases bad with
    | none => exact fun x member => absurd member List.not_mem_nil
    | some bad =>
      -- The batch still owns the group, so the split is allowed where it stands and a no-op elsewhere.
      have owns := known.held g List.mem_cons_self
      have cut := split_regrouped heard' t known.numbered g owns bad
      refine ⟨batchDiscipline.refl heard' t, cut, ?_⟩
      apply respects_readNewGroups ih
      · intro n member
        have manner := splitGroups_manner member
        simp only [SensorGroup.manner, Prod.mk.injEq] at manner
        rw [manner.2.2]
        exact space
      · exact ⟨cut.numbered known.numbered, splitGroups_owned t known.numbered g owns bad, by simp⟩

/-- The removal of the groups that have been marked. -/
theorem removeMarked_allowed {marked : List SensorGroup} (known : Known [] marked heard s) :
    (removeMarked marked).Respects batchDiscipline (fun _ _ _ => True) heard s := by
  refine ⟨⟨Nat.le_refl _, ?_, ?_, fun id on => on, ?_⟩, trivial⟩
  · exact fun g member => .inl (List.mem_filter.mp member).1
  · intro numbered
    exact ⟨(List.filter_sublist.map _).nodup numbered.distinct,
      fun g member => numbered.below g (List.mem_filter.mp member).1⟩
  · refine ⟨s.groups.filter fun g => marked.any fun m => m.id == g.id, ?_, ?_⟩
    · intro g member
      obtain ⟨there, gone⟩ := List.mem_filter.mp member
      obtain ⟨m, isMarked, eq⟩ := List.any_eq_true.mp gone
      obtain ⟨owns, once, read⟩ := known.marked m isMarked
      -- The group with the identity of a marked one is the marked one.
      rw [owns.same g there (beq_iff_eq.mp eq).symm]
      exact ⟨once, read⟩
    · have split := List.filter_append_perm (fun g => marked.any fun m => m.id == g.id) s.groups
      exact (List.perm_append_comm.trans split).flatMap_right _

theorem known_marks {held marked : List SensorGroup} {g : SensorGroup}
    (known : Known (g :: held) marked heard s) (read : List SensorGroup)
    (was : ∀ r ∈ read, s.Owns r ∧ r.WasRead heard) : Known held (marked ++ once read) heard s := by
  refine ⟨known.numbered, fun h member => known.held h (List.mem_cons_of_mem g member), ?_⟩
  intro m member
  rcases List.mem_append.mp member with old | new
  · exact known.marked m old
  · obtain ⟨there, speed⟩ := List.mem_filter.mp new
    obtain ⟨owns, read⟩ := was m there
    exact ⟨owns, by simpa using speed, read⟩

/-- **A batch makes allowed changes only**, wherever the others interrupt it. -/
theorem respects_updateGroups (groups marked : List SensorGroup)
    (known : Known groups marked heard s) :
    (updateGroups groups marked).Respects batchDiscipline (fun _ _ _ => True) heard s := by
  induction groups generalizing marked heard s with
  | nil => exact removeMarked_allowed known
  | cons g rest ih =>
    -- What is known of the groups survives what others do during the read.
    have read := (respects_readRegisterBlockWithException (decide (g.registerType = .holding)) g heard s).frame
      (stable_known (g :: rest) marked) known
    apply read.bind
    rintro heard' ⟨vals, exc⟩ t ⟨answered, known⟩
    unfold afterRead
    cases vals with
    | some values =>
      dsimp only
      split
      · -- A short answer marks nothing.
        have on := known_marks known [] (by simp)
        rw [show marked ++ once [] = marked from List.append_nil _] at on
        exact ih marked on
      next full =>
        apply ih
        apply known_marks known _
        intro r member
        rw [List.mem_singleton.mp member]
        exact ⟨known.held g List.mem_cons_self, values, answered values rfl, not_not.mp full⟩
    | none =>
      dsimp only
      -- What is recovered is known and read; the rest goes on with it marked.
      have goOn (heard'' : List (ReadRequest × Reply)) (result : List (SensorGroup × List Nat))
          (u : Recovery) (both : ReadGroups result heard'' u ∧ Known (g :: rest) marked heard'' u) :
          Program.Respects batchDiscipline (fun _ _ _ => True)
            (do
              if ← canPoll then updateGroups rest (marked ++ once (result.map Prod.fst))
              else removeMarked (marked ++ once (result.map Prod.fst))) heard'' u := by
        have marks : Known rest (marked ++ once (result.map Prod.fst)) heard'' u := by
          apply known_marks both.2
          intro r member
          obtain ⟨x, there, rfl⟩ := List.mem_map.mp member
          exact both.1 x there
        intro open_
        cases open_ with
        | true => exact ih _ marks
        | false => exact removeMarked_allowed marks.weaken
      split
      · -- The recovery starts from what is known of this group.
        have here : Known [g] [] heard' t := by
          refine ⟨known.numbered, fun h member => ?_, by simp⟩
          rw [List.mem_singleton.mp member]
          exact known.held g List.mem_cons_self
        have recovered := (recovers_recover _ (maxRegisterRecoveryDepth + 1) g heard' t rfl here).frame
          (stable_known (g :: rest) marked) known
        exact recovered.bind goOn
      · exact goOn heard' [] t ⟨fun x member => absurd member List.not_mem_nil, known⟩

end Poll

/-! ### Whole runs -/

/-- What is left of a suspended batch makes allowed changes only. -/
def BatchPhase.Respects (heard : List (ReadRequest × Reply)) (s : Recovery) : BatchPhase → Prop
  | queued groups => ∀ g ∈ groups, s.Owns g
  | dialing _ k => (Program.dial k).Respects batchDiscipline (fun _ _ _ => True) heard s
  | asking q k | holding q k | sent q k =>
    (Program.request q k).Respects batchDiscipline (fun _ _ _ => True) heard s

theorem BatchPhase.Respects.moved {heard heard' : List (ReadRequest × Reply)} {s t : Recovery}
    {phase : BatchPhase} (respects : phase.Respects heard s) (sub : heard ⊆ heard')
    (moved : Regrouped heard' s t) : phase.Respects heard' t := by
  cases phase with
  | queued groups => exact fun g member => (respects g member).moved moved
  | dialing phase k => exact Program.Respects.rely (D := batchDiscipline) trivial respects sub moved
  | asking q k | holding q k | sent q k =>
    exact Program.Respects.rely (D := batchDiscipline) trivial respects sub moved

namespace PollTraffic

/-- The answer that a batch gets at a step, with its request. -/
def answered (s : PollTraffic) : TrafficAction → List (ReadRequest × Reply)
  | .answer i reply =>
    match s.batches i with
    | some ⟨_, _, _, .sent q _⟩ => [(q, reply)]
    | _ => []
  | _ => []

/-- All answers to the reads of the batches in a run. -/
abbrev answers (s : PollTraffic) (acts : List TrafficAction) : List (ReadRequest × Reply) :=
  observed step answered s acts

/-- Since `initial` only allowed changes have been made, and the batches will make no others. -/
structure Disciplined (initial : Recovery) (heard : List (ReadRequest × Reply)) (s : PollTraffic) :
    Prop where
  numbered : s.data.Numbered
  regrouped : Regrouped heard initial s.data
  batches : ∀ i b, s.batches i = some b → b.phase.Respects heard s.data

/-- A batch that respects the discipline does so up to where it waits next, and from there. -/
theorem advance_respects (i : Nat) (b : Batch) (p : Poll Unit) (s : PollTraffic)
    (heard : List (ReadRequest × Reply))
    (respects : p.Respects batchDiscipline (fun _ _ _ => True) heard s.data) :
    Regrouped heard s.data (advance i b p s).data ∧
      ∃ x, (advance i b p s).batches = Function.update s.batches i x ∧
        ∀ c, x = some c → c.phase.Respects heard (advance i b p s).data := by
  have here := batchDiscipline.refl heard s.data
  induction p generalizing s with
  | done u => exact ⟨here, none, rfl, nofun⟩
  | atomic f k ih =>
    -- The program runs on to where it waits next; each change on the way is allowed.
    obtain ⟨moved, rest⟩ := ih (f s.data) { s with data := f s.data } respects.2
      (batchDiscipline.refl heard _)
    exact ⟨respects.1.trans moved, rest⟩
  | test k ih => exact ih s.canPoll s (respects s.canPoll) here
  | dial k ih =>
    rw [advance]
    split
    · exact ih false (s.returns false) (respects false heard s.data (List.Subset.refl _) here) here
    · split
      · exact ih true (s.returns true) (respects true heard s.data (List.Subset.refl _) here) here
      · refine ⟨here, _, rfl, fun c own => ?_⟩
        cases own
        exact respects
  | request q k ih =>
    refine ⟨here, _, rfl, fun c own => ?_⟩
    cases own
    exact respects

variable {initial : Recovery} {heard heard' : List (ReadRequest × Reply)} {s t : PollTraffic}

/-- One batch has gone on, and the others find what it has done. -/
theorem Disciplined.update (disciplined : Disciplined initial heard s) {i : Nat} {x : Option Batch}
    (sub : heard ⊆ heard') (moved : Regrouped heard' s.data t.data)
    (batches : t.batches = Function.update s.batches i x)
    (own : ∀ c, x = some c → c.phase.Respects heard' t.data) : Disciplined initial heard' t where
  numbered := moved.numbered disciplined.numbered
  regrouped := (disciplined.regrouped.mono sub).trans moved
  batches j c present := by
    rw [batches] at present
    exact every_update (fun l d _ there => (disciplined.batches l d there).moved sub moved) own j c
      present

/-- Nothing has happened to the groups, and no batch has come in. -/
theorem Disciplined.alter (disciplined : Disciplined initial heard s) (data : t.data = s.data)
    (batches : ∀ i b, t.batches i = some b → s.batches i = some b) :
    Disciplined initial heard t where
  numbered := data ▸ disciplined.numbered
  regrouped := data ▸ disciplined.regrouped
  batches i b present := data ▸ disciplined.batches i b (batches i b present)

theorem Disciplined.advance (disciplined : Disciplined initial heard s) {u : PollTraffic}
    (sub : heard ⊆ heard') (i : Nat) (b : Batch) (p : Poll Unit)
    (respects : p.Respects batchDiscipline (fun _ _ _ => True) heard' s.data)
    (data : u.data = s.data) (batches : u.batches = s.batches) :
    Disciplined initial heard' (advance i b p u) := by
  obtain ⟨moved, x, after, own⟩ := advance_respects i b p u heard' (data ▸ respects)
  rw [data] at moved
  rw [batches] at after
  exact disciplined.update sub moved after own

theorem Disciplined.resume (disciplined : Disciplined initial heard s) (d : Dialer) (result : Bool) :
    Disciplined initial heard (s.resume d result) := by
  unfold PollTraffic.resume
  cases d with
  | call j => exact disciplined.alter rfl fun i b present => present
  | batch i =>
    dsimp only
    split
    next speed hash inPollTask phase k present =>
      -- The batch goes on with whether the link was opened.
      have respects := disciplined.batches i _ present
      have later := respects result heard s.data (List.Subset.refl _) (batchDiscipline.refl heard _)
      exact disciplined.advance (List.Subset.refl _) i _ (k result) later rfl rfl
    next => exact disciplined

theorem Disciplined.opens (disciplined : Disciplined initial heard s) (d : Dialer) :
    Disciplined initial heard (s.opens d) := by
  unfold PollTraffic.opens
  cases d with
  | call j => exact disciplined.alter rfl fun i b present => present
  | batch i =>
    dsimp only
    split
    next speed hash inPollTask phase k present =>
      refine disciplined.update (List.Subset.refl _) (batchDiscipline.refl heard _) rfl fun c own => ?_
      cases own
      have respects := disciplined.batches i _ present
      exact respects
    next => exact disciplined.alter rfl fun i b present => present

/-- A batch that a timer starts takes a copy of groups the controller has. -/
theorem fire_cases {speed : PollSpeed} {inPollTask : Bool}
    (h : s.step (.fire speed inPollTask) = some t) :
    t = s ∨ ∃ b, b.phase = .queued (s.groupsOf speed) ∧
      t = { s with batches := Function.update s.batches s.nextBatch (some b)
                   nextBatch := s.nextBatch + 1 } := by
  simp only [step] at h
  split at h
  · cases h
  · split at h
    · cases h
      exact .inl rfl
    · cases h
      exact .inr ⟨_, rfl, rfl⟩

theorem disciplined_step (heard : List (ReadRequest × Reply)) (s : PollTraffic) (a : TrafficAction)
    (t : PollTraffic) (disciplined : Disciplined initial heard s) (h : s.step a = some t) :
    Disciplined initial (heard ++ s.answered a) t := by
  have same := List.Subset.refl heard
  -- Only an answer adds to what was heard.
  have silent (quiet : s.answered a = []) (stays : Disciplined initial heard t) :
      Disciplined initial (heard ++ s.answered a) t := by
    rw [quiet, List.append_nil]
    exact stays
  cases stepped s a t h with
  | skipped speed inPollTask => exact silent rfl disciplined
  | fired speed inPollTask b groups phase open_ =>
    apply silent rfl
    rcases fire_cases h with stays | ⟨c, queued, made⟩
    · rw [stays]
      exact disciplined
    · rw [made]
      refine disciplined.update same (batchDiscipline.refl heard _) rfl fun d own => ?_
      cases own
      rw [queued]
      exact fun g member => disciplined.numbered.owns (List.mem_filter.mp member).1
  | begin i b groups present phase =>
    apply silent rfl
    -- The copy that the batch works on may be old, but its groups were the controller's.
    have queued := disciplined.batches i b present
    rw [phase] at queued
    have known : Known groups [] heard s.data := ⟨disciplined.numbered, queued, by simp⟩
    exact disciplined.advance same i b _ (Poll.respects_updateGroups groups [] known) rfl rfl
  | takeLink i b q k present phase | sendRead i b q k present phase =>
    apply silent rfl
    have respects := disciplined.batches i b present
    rw [phase] at respects
    refine disciplined.update same (batchDiscipline.refl heard _) rfl fun c own => ?_
    cases own
    exact respects
  | answer i b q k reply present phase =>
    have respects := disciplined.batches i b present
    obtain ⟨speed, hash, inPollTask, _⟩ := b
    cases phase
    have heardNow : s.answered (.answer i reply) = [(q, reply)] := by simp only [answered, present]
    rw [heardNow]
    have later := respects reply heard s.data same (batchDiscipline.refl heard _)
    exact disciplined.advance (List.subset_append_left _ _) i _ (k reply) later rfl rfl
  | dialReturns d phase free => exact silent rfl (disciplined.resume d _)
  | dialOpens d phase free open_ => exact silent rfl (disciplined.opens d)
  | dialDone d outcome phase =>
    apply silent rfl
    have closed := disciplined.alter (t := { s with
      linkLock := .free, connected := (s.tryConnect outcome).1 }) rfl fun i b present => present
    exact closed.resume d _
  | stop =>
    apply silent rfl
    exact disciplined.alter rfl fun i b present => (Option.filter_eq_some_iff.mp present).1
  | _ => exact silent rfl (disciplined.alter rfl fun i b present => present)

/-- **Every enabled sensor stays in the polls.** Whatever the batches, connects, writes and
cancellations do and in which order, the sensors that are still enabled are those of the
controller's groups and of some removed groups, each once, and polled at the same speed and in the
same register space as at the start; the removed groups are one-shot groups whose block has been
read in full. -/
theorem sensors_stay_polled (connectionId : String) (groups : List SensorGroup)
    (enabledSensors : Nat → Bool) (nextGroup : Nat) (connected isRunning : Bool)
    (numbered : (Recovery.start groups enabledSensors nextGroup).Numbered)
    (acts : List TrafficAction) (t : PollTraffic)
    (run : exec step (start connectionId groups enabledSensors nextGroup connected isRunning) acts =
      some t) :
    (∀ id, t.data.enabled id = true → enabledSensors id = true) ∧
      ∃ removed : List SensorGroup,
        (∀ g ∈ removed, g.pollSpeed = .once ∧
          g.WasRead
            (answers (start connectionId groups enabledSensors nextGroup connected isRunning) acts)) ∧
        (polled t.data.enabled (t.data.groups ++ removed)).Perm (polled t.data.enabled groups) := by
  have atStart : Disciplined (Recovery.start groups enabledSensors nextGroup) []
      (start connectionId groups enabledSensors nextGroup connected isRunning) :=
    ⟨numbered, batchDiscipline.refl _ _, nofun⟩
  have atEnd := invariant_observed disciplined_step atStart run
  rw [List.nil_append] at atEnd
  exact ⟨atEnd.regrouped.disables, atEnd.regrouped.kept⟩

/-- A one-shot group and a group of two sensors, the second of which gets rejected. -/
def modelAndPair : List SensorGroup :=
  [⟨0, [.single 33000], .once, none, .input⟩, ⟨1, [.single 33057, .single 33058], .normal, none, .input⟩]

def oneBatch : List TrafficAction :=
  let answers : List Reply := [.values [8], .exception 2, .values [3], .exception 2, .values [3]]
  [.fire .normal false, .begin 0] ++
    answers.flatMap fun reply => [.takeLink 0, .sendRead 0, .answer 0 reply]

/-- The one-shot group is read and removed, the pair split behind the rejected register. -/
theorem sensors_stay_polled_recovery :
    ∃ t, exec step (start "10.0.0.5:502" modelAndPair (fun _ => true) 2 true true) oneBatch = some t ∧
      t.data.groups.map (fun g => registersOf g.sensors) = [[33057]] ∧
      t.data.enabled 33058 = false ∧
      ∃ removed : List SensorGroup,
        (∀ g ∈ removed, g.pollSpeed = .once ∧
          g.WasRead (answers (start "10.0.0.5:502" modelAndPair (fun _ => true) 2 true true) oneBatch)) ∧
        (polled t.data.enabled (t.data.groups ++ removed)).Perm (polled t.data.enabled modelAndPair) := by
  have outcome : (exec step (start "10.0.0.5:502" modelAndPair (fun _ => true) 2 true true)
      oneBatch).map (fun t => (t.data.groups.map fun g => registersOf g.sensors, t.data.enabled 33058)) =
      some ([[33057]], false) := by
    decide +kernel
  obtain ⟨t, run, values⟩ := Option.map_eq_some_iff.mp outcome
  simp only [Prod.mk.injEq] at values
  have numbered : (Recovery.start modelAndPair (fun _ => true) 2).Numbered :=
    ⟨by decide, by decide⟩
  exact ⟨t, run, values.1, values.2, (sensors_stay_polled "10.0.0.5:502" modelAndPair (fun _ => true) 2
    true true numbered oneBatch t run).2⟩

end PollTraffic

end HHModbus
