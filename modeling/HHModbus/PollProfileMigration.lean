import HHModbus.ConfigFlow

/-!
# The migration of `essential_only`

The step from version 4 to 5 of an entry, for dictionaries with any keys and values, and what
`get_poll_profile` reads before and after it.
-/
namespace HHModbus

/-- What an entry can store. -/
inductive JsonValue where
  | null
  | flag (b : Bool)
  | number (q : ℚ)
  | text (s : String)
  | list (items : List JsonValue)
  | dict (entries : List (String × JsonValue))

namespace JsonValue

/-- Whether Python takes the value for true. -/
def truthy : JsonValue → Bool
  | null => false
  | flag b => b
  | number q => q != 0
  | text s => s != ""
  | list items => !items.isEmpty
  | dict entries => !entries.isEmpty

/-- `profile in POLL_PROFILES`; `none` where the value cannot be hashed. -/
def isProfile : JsonValue → Option Bool
  | text s => some (s ∈ pollProfiles)
  | null | flag _ | number _ => some false
  | list _ | dict _ => none

end JsonValue

abbrev Dictionary := String → Option JsonValue

namespace Dictionary

/-- `{**c, **d}`. -/
def merge (c d : Dictionary) : Dictionary := fun k => (d k).or (c k)

/-- `c.get(k)`. -/
def get (c : Dictionary) (k : String) : JsonValue := (c k).getD .null

/-- The dictionary without a key. -/
def without (c : Dictionary) (k : String) : Dictionary := fun l => if l = k then none else c l

def set (c : Dictionary) (k : String) (v : JsonValue) : Dictionary := Function.update c k (some v)

end Dictionary

/-- `CONF_POLL_PROFILE`. -/
def confPollProfile : String := "poll_profile"

def essentialOnly : String := "essential_only"

/-- `entry.data` and `entry.options`. -/
structure StoredEntry where
  data : Dictionary
  options : Dictionary

namespace StoredEntry

def merged (e : StoredEntry) : Dictionary := e.data.merge e.options

/-- `config.get("essential_only", False)`, used as a condition. -/
def essential (e : StoredEntry) : Bool :=
  match e.merged essentialOnly with
  | some v => v.truthy
  | none => false

/-- The profile that stands for the boolean. -/
def legacyProfile (e : StoredEntry) : String :=
  if e.essential then PollProfile.essential.key else PollProfile.full.key

/-- `get_poll_profile`; `none` if it raises. -/
def getPollProfile (e : StoredEntry) : Option JsonValue :=
  let profile := e.merged.get confPollProfile
  profile.isProfile.map fun known => if known then profile else .text e.legacyProfile

/-- The profile in the data, and no boolean anywhere. -/
def withProfile (e : StoredEntry) (profile : JsonValue) : StoredEntry where
  data := (e.data.without essentialOnly).set confPollProfile profile
  options := e.options.without essentialOnly

def hadLegacyKey (e : StoredEntry) : Bool :=
  (e.data essentialOnly).isSome || (e.options essentialOnly).isSome

/-- `_migrate_essential_only_to_poll_profile`. -/
def migrateEssentialOnly (e : StoredEntry) : StoredEntry :=
  match e.merged.get confPollProfile with
  | .null => e.withProfile (.text e.legacyProfile)
  -- A profile stays, and only a stale boolean is dropped.
  | existing => if e.hadLegacyKey then e.withProfile existing else e

/-! ### What the migration writes -/

/-- The three ways the migration can go. -/
theorem migrate_cases (e : StoredEntry) :
    (e.merged.get confPollProfile = .null ∧
      e.migrateEssentialOnly = e.withProfile (.text e.legacyProfile)) ∨
    (e.merged.get confPollProfile ≠ .null ∧ e.hadLegacyKey = true ∧
      e.migrateEssentialOnly = e.withProfile (e.merged.get confPollProfile)) ∨
    (e.merged.get confPollProfile ≠ .null ∧ e.hadLegacyKey = false ∧
      e.migrateEssentialOnly = e) := by
  unfold migrateEssentialOnly
  split
  next null => exact .inl ⟨null, rfl⟩
  next present =>
    right
    cases legacy : e.hadLegacyKey with
    | true => exact .inl ⟨present, rfl, if_pos rfl⟩
    | false => exact .inr ⟨present, rfl, if_neg (by decide)⟩

@[simp] theorem confPollProfile_ne : confPollProfile ≠ essentialOnly := by decide

@[simp] theorem withProfile_data (e : StoredEntry) (v : JsonValue) (k : String) :
    (e.withProfile v).data k =
      if k = confPollProfile then some v else if k = essentialOnly then none else e.data k :=
  Function.update_apply ..

@[simp] theorem withProfile_options (e : StoredEntry) (v : JsonValue) (k : String) :
    (e.withProfile v).options k = if k = essentialOnly then none else e.options k := rfl

theorem withProfile_legacy (e : StoredEntry) (v : JsonValue) :
    (e.withProfile v).hadLegacyKey = false := by
  simp [hadLegacyKey, confPollProfile_ne.symm]

theorem withProfile_withProfile (e : StoredEntry) (v w : JsonValue) :
    (e.withProfile v).withProfile w = e.withProfile w := by
  have data : ((e.withProfile v).withProfile w).data = (e.withProfile w).data := by
    funext k
    simp only [withProfile_data]
    split_ifs <;> rfl
  have options : ((e.withProfile v).withProfile w).options = (e.withProfile w).options := by
    funext k
    simp only [withProfile_options]
    split_ifs <;> rfl
  exact congrArg₂ StoredEntry.mk data options

theorem essential_of_noLegacy {e : StoredEntry} (absent : e.hadLegacyKey = false) :
    e.essential = false := by
  simp only [hadLegacyKey, Bool.or_eq_false_iff, Option.isSome_eq_false_iff,
    Option.isNone_iff_eq_none] at absent
  simp [essential, merged, Dictionary.merge, absent]

/-- The options hide the profile that is written to the data. -/
theorem get_withProfile (e : StoredEntry) (v : JsonValue) :
    (e.withProfile v).merged.get confPollProfile = (e.options confPollProfile).getD v := by
  simp only [merged, Dictionary.merge, Dictionary.get, withProfile_data, withProfile_options,
    if_neg confPollProfile_ne, if_true]
  cases e.options confPollProfile <;> rfl

theorem getD_existing (e : StoredEntry) :
    (e.options confPollProfile).getD (e.merged.get confPollProfile) =
      e.merged.get confPollProfile := by
  simp only [merged, Dictionary.merge, Dictionary.get]
  cases e.options confPollProfile <;> rfl

/-- Without the boolean, what is no profile is read as full. -/
theorem getPollProfile_withProfile (e : StoredEntry) (v : JsonValue) :
    (e.withProfile v).getPollProfile =
      ((e.options confPollProfile).getD v).isProfile.map fun known =>
        if known then (e.options confPollProfile).getD v else .text PollProfile.full.key := by
  have full : (e.withProfile v).legacyProfile = PollProfile.full.key := by
    rw [legacyProfile, essential_of_noLegacy (withProfile_legacy e v)]
    rfl
  rw [getPollProfile, get_withProfile, full]

/-! ### When it keeps the meaning -/

/-- What a migration of the boolean is for. -/
structure Preserved (e : StoredEntry) : Prop where
  profile : e.migrateEssentialOnly.getPollProfile = e.getPollProfile
  data : ∀ k, k ≠ confPollProfile → k ≠ essentialOnly → e.migrateEssentialOnly.data k = e.data k
  options : ∀ k, k ≠ essentialOnly → e.migrateEssentialOnly.options k = e.options k
  gone : e.migrateEssentialOnly.hadLegacyKey = false
  again : e.migrateEssentialOnly.migrateEssentialOnly = e.migrateEssentialOnly

/-- The boolean is not set, or a profile is stored that is known or cannot be looked up at all, or
no profile is stored and the options have no `None` in its place. -/
def Foldable (e : StoredEntry) : Prop :=
  e.essential = false ∨ (e.merged.get confPollProfile).isProfile ≠ some false ∨
    (e.merged.get confPollProfile = .null ∧ e.options confPollProfile = none)

theorem isProfile_legacyProfile (e : StoredEntry) :
    JsonValue.isProfile (.text e.legacyProfile) = some true := by
  have known : PollProfile.essential.key ∈ pollProfiles ∧ PollProfile.full.key ∈ pollProfiles := by
    decide
  refine congrArg some (decide_eq_true ?_)
  unfold legacyProfile
  split
  · exact known.1
  · exact known.2

theorem legacyProfile_of_unset {e : StoredEntry} (unset : e.essential = false) :
    e.legacyProfile = PollProfile.full.key := by
  rw [legacyProfile, unset]
  rfl

theorem getPollProfile_of_null {e : StoredEntry} (null : e.merged.get confPollProfile = .null) :
    e.getPollProfile = some (.text e.legacyProfile) := by
  rw [getPollProfile, null]
  rfl

/-- A `None` in the options is what hides the migrated profile. -/
theorem options_of_null {e : StoredEntry} (null : e.merged.get confPollProfile = .null) :
    e.options confPollProfile = none ∨ e.options confPollProfile = some .null := by
  cases hidden : e.options confPollProfile with
  | none => exact .inl rfl
  | some v =>
    have same := e.getD_existing
    rw [hidden, null] at same
    exact .inr (congrArg some same)

/-- Whatever is stored, no key but the two changes, and the boolean goes. -/
theorem migrate_frame (e : StoredEntry) :
    (∀ k, k ≠ confPollProfile → k ≠ essentialOnly → e.migrateEssentialOnly.data k = e.data k) ∧
      (∀ k, k ≠ essentialOnly → e.migrateEssentialOnly.options k = e.options k) ∧
      e.migrateEssentialOnly.hadLegacyKey = false := by
  have written (v : JsonValue) (migrated : e.migrateEssentialOnly = e.withProfile v) :
      (∀ k, k ≠ confPollProfile → k ≠ essentialOnly → e.migrateEssentialOnly.data k = e.data k) ∧
        (∀ k, k ≠ essentialOnly → e.migrateEssentialOnly.options k = e.options k) ∧
        e.migrateEssentialOnly.hadLegacyKey = false := by
    rw [migrated]
    refine ⟨fun k profile legacy => ?_, fun k legacy => ?_, withProfile_legacy e v⟩
    · rw [withProfile_data, if_neg profile, if_neg legacy]
    · rw [withProfile_options, if_neg legacy]
  rcases e.migrate_cases with ⟨-, migrated⟩ | ⟨-, -, migrated⟩ | ⟨-, absent, migrated⟩
  · exact written _ migrated
  · exact written _ migrated
  · rw [migrated]
    exact ⟨fun _ _ _ => rfl, fun _ _ => rfl, absent⟩

theorem Foldable.essential_eq_false {e : StoredEntry} (foldable : e.Foldable)
    (unknown : (e.merged.get confPollProfile).isProfile = some false)
    (hidden : e.merged.get confPollProfile = .null → e.options confPollProfile ≠ none) :
    e.essential = false := by
  rcases foldable with unset | known | ⟨null, absent⟩
  · exact unset
  · exact absurd unknown known
  · exact absurd absent (hidden null)

theorem getPollProfile_migrate {e : StoredEntry} (foldable : e.Foldable) :
    e.migrateEssentialOnly.getPollProfile = e.getPollProfile := by
  rcases e.migrate_cases with ⟨null, migrated⟩ | ⟨present, -, migrated⟩ | ⟨-, -, migrated⟩
  · rw [migrated, getPollProfile_withProfile, getPollProfile_of_null null]
    rcases options_of_null null with absent | hidden
    · rw [absent, Option.getD_none, isProfile_legacyProfile]
      rfl
    · have unset := foldable.essential_eq_false (by rw [null]; rfl) fun _ => by simp [hidden]
      rw [hidden, legacyProfile_of_unset unset]
      rfl
  · rw [migrated, getPollProfile_withProfile, getD_existing, getPollProfile]
    cases known : (e.merged.get confPollProfile).isProfile with
    | none => rfl
    | some known' =>
      cases known' with
      | true => rfl
      | false =>
        have unset := foldable.essential_eq_false known fun null => absurd null present
        rw [legacyProfile_of_unset unset]
  · rw [migrated]

theorem migrate_migrate {e : StoredEntry} (foldable : e.Foldable) :
    e.migrateEssentialOnly.migrateEssentialOnly = e.migrateEssentialOnly := by
  -- The second migration only acts where the options hide what the first has written.
  have settled (v : JsonValue) (hides : (e.options confPollProfile).getD v = .null →
      v = .text PollProfile.full.key) : (e.withProfile v).migrateEssentialOnly = e.withProfile v := by
    rcases (e.withProfile v).migrate_cases with ⟨null, again⟩ | ⟨-, legacy, -⟩ | ⟨-, -, again⟩
    · rw [get_withProfile] at null
      rw [again, withProfile_withProfile, legacyProfile_of_unset
        (essential_of_noLegacy (withProfile_legacy e v)), hides null]
    · rw [withProfile_legacy] at legacy
      cases legacy
    · exact again
  rcases e.migrate_cases with ⟨null, migrated⟩ | ⟨present, -, migrated⟩ | ⟨-, -, migrated⟩
  · rw [migrated]
    refine settled _ fun shown => ?_
    rcases options_of_null null with absent | hidden
    · rw [absent] at shown
      cases shown
    · have unset := foldable.essential_eq_false (by rw [null]; rfl) fun _ => by simp [hidden]
      rw [legacyProfile_of_unset unset]
  · rw [migrated]
    refine settled _ fun shown => ?_
    rw [getD_existing] at shown
    exact absurd shown present
  · rw [migrated, migrated]

theorem foldable_of_profile {e : StoredEntry}
    (same : e.migrateEssentialOnly.getPollProfile = e.getPollProfile) : e.Foldable := by
  by_contra bad
  simp only [Foldable, not_or, not_not, not_and, Bool.not_eq_false] at bad
  obtain ⟨set, unknown, hidden⟩ := bad
  -- Before, the boolean decides; after, there is nothing but the full profile left.
  have before : e.getPollProfile = some (.text PollProfile.essential.key) := by
    rw [getPollProfile, unknown, legacyProfile, set]
    rfl
  have after (v : JsonValue) (still : ((e.options confPollProfile).getD v).isProfile = some false) :
      (e.withProfile v).getPollProfile = some (.text PollProfile.full.key) := by
    rw [getPollProfile_withProfile, still]
    rfl
  have differ : PollProfile.full.key ≠ PollProfile.essential.key := by decide
  rcases e.migrate_cases with ⟨null, migrated⟩ | ⟨present, -, migrated⟩ | ⟨present, absent, -⟩
  · rcases options_of_null null with none | some
    · exact hidden null none
    · rw [migrated, before, after _ (by rw [some]; rfl)] at same
      exact differ (by simpa using same)
  · rw [migrated, before, after _ (by rw [getD_existing]; exact unknown)] at same
    exact differ (by simpa using same)
  · rw [essential_of_noLegacy absent] at set
    cases set

end StoredEntry

/-- The migration keeps what the entry means exactly where the boolean does not get lost. -/
theorem migrateEssentialOnly_preserved_iff (e : StoredEntry) : e.Preserved ↔ e.Foldable := by
  constructor
  · exact fun preserved => StoredEntry.foldable_of_profile preserved.profile
  · intro foldable
    obtain ⟨data, options, gone⟩ := e.migrate_frame
    exact ⟨StoredEntry.getPollProfile_migrate foldable, data, options, gone,
      StoredEntry.migrate_migrate foldable⟩

/-- An unknown profile beside the boolean. -/
theorem unknownProfile_not_preserved :
    let e : StoredEntry :=
      { data := fun k =>
          if k = confPollProfile then some (.text "fast")
          else if k = essentialOnly then some (.flag true) else none
        options := fun _ => none }
    e.getPollProfile = some (.text "essential") ∧
      e.migrateEssentialOnly.getPollProfile = some (.text "full") ∧ ¬ e.Preserved := by
  intro e
  have before : e.getPollProfile = some (.text "essential") := by rfl
  have after : e.migrateEssentialOnly.getPollProfile = some (.text "full") := by rfl
  refine ⟨before, after, fun preserved => ?_⟩
  have same := preserved.profile
  rw [before, after] at same
  simp at same

/-! ### The dictionaries of the forms -/

def ConfigValue.json : ConfigValue → JsonValue
  | text s => .text s
  | number i => .number i
  | flag b => .flag b
  | null => .null

/-- The two keys as they are stored. -/
def Config.stored (c : Config) : Dictionary := fun k =>
  if k = confPollProfile then (c .pollProfile).map ConfigValue.json
  else if k = essentialOnly then (c .essentialOnly).map ConfigValue.json
  else none

theorem ConfigValue.truthy_json (v : ConfigValue) : v.json.truthy = v.truthy := by
  cases v with
  | number i =>
    rw [Bool.eq_iff_iff]
    simp [json, JsonValue.truthy, truthy]
  | text | flag | null => rfl

theorem merged_stored (data options : Config) (k : String) :
    StoredEntry.merged ⟨data.stored, options.stored⟩ k = (data.merge options).stored k := by
  simp only [StoredEntry.merged, Dictionary.merge, Config.stored, Config.merge_apply, Option.map_or]
  split_ifs <;> rfl

theorem PollProfile.ofKey?_eq_none_iff (s : String) : ofKey? s = none ↔ s ∉ pollProfiles := by
  simp [ofKey?, pollProfiles, eq_comm (a := s)]

theorem PollProfile.key_of_ofKey? {s : String} {p : PollProfile} (found : ofKey? s = some p) :
    p.key = s := by
  rw [ofKey?] at found
  exact of_decide_eq_true (List.find?_some found :)

/-- On what the forms store, the profile is the one that the setup uses. -/
theorem getPollProfile_stored (data options : Config) :
    StoredEntry.getPollProfile ⟨data.stored, options.stored⟩ =
      some (.text (getPollProfile (data.merge options)).key) := by
  have legacy : StoredEntry.essential ⟨data.stored, options.stored⟩ =
      (data.merge options).flag .essentialOnly false := by
    rw [StoredEntry.essential, merged_stored, Config.stored,
      if_neg StoredEntry.confPollProfile_ne.symm, if_pos rfl, Config.flag]
    cases (data.merge options) .essentialOnly with
    | none => rfl
    | some v => exact v.truthy_json
  have read : (StoredEntry.merged ⟨data.stored, options.stored⟩).get confPollProfile =
      (((data.merge options) .pollProfile).map ConfigValue.json).getD .null := by
    rw [Dictionary.get, merged_stored, Config.stored, if_pos rfl]
  have boolean : StoredEntry.legacyProfile ⟨data.stored, options.stored⟩ =
      PollProfile.key (if (data.merge options).flag .essentialOnly false then .essential else .full) := by
    rw [StoredEntry.legacyProfile, legacy, apply_ite PollProfile.key]
  rw [StoredEntry.getPollProfile, read, boolean, getPollProfile, Config.text?]
  cases (data.merge options) .pollProfile with
  | none => rfl
  | some v =>
    cases v with
    | text s =>
      cases found : PollProfile.ofKey? s with
      | none =>
        have unknown := (PollProfile.ofKey?_eq_none_iff s).mp found
        simp [ConfigValue.json, JsonValue.isProfile, unknown, found]
      | some p =>
        have known : s ∈ pollProfiles := by
          by_contra unknown
          rw [(PollProfile.ofKey?_eq_none_iff s).mpr unknown] at found
          cases found
        simp [ConfigValue.json, JsonValue.isProfile, known, found, PollProfile.key_of_ofKey? found]
    | number | flag | null => rfl

end HHModbus
