import Mathlib.Data.List.Chain
import HHModbus.Lib.Stripping
import HHModbus.SerialMigration

/-!
# Cleaned identifications

What `clean_identification` makes of an identification, and how the two builders of unique ids read
the result where a controller has no serial.
-/
namespace HHModbus

open Stripping

/-- The characters of a cleaned identification. -/
def isClean (c : Char) : Bool := c.isLower || c.isDigit || c = '_'

/-- No two underscores in a row. -/
def NoDouble (l : List Char) : Prop := l.IsChain fun a b => ¬ (a = '_' ∧ b = '_')

/-! ### The parts of the cleaning -/

theorem head?_collapseUnderscores (l : List Char) : (collapseUnderscores l).head? = l.head? := by
  fun_induction collapseUnderscores l with
  | case1 rest ih => rw [ih, List.head?_cons, List.head?_cons]
  | case2 c rest _ ih => rfl
  | case3 => rfl

theorem mem_collapseUnderscores {c : Char} (l : List Char) :
    c ∈ collapseUnderscores l ↔ c ∈ l := by
  fun_induction collapseUnderscores l with
  | case1 rest ih => simp [ih]
  | case2 d rest _ ih => simp [ih]
  | case3 => rfl

theorem noDouble_collapseUnderscores (l : List Char) : NoDouble (collapseUnderscores l) := by
  fun_induction collapseUnderscores l with
  | case1 rest ih => exact ih
  | case2 c rest single ih =>
    refine List.isChain_cons.mpr ⟨fun d next both => ?_, ih⟩
    -- An underscore that is kept is not followed by another.
    rw [head?_collapseUnderscores] at next
    obtain ⟨rfl, rfl⟩ := both
    obtain ⟨later, rfl⟩ := List.head?_eq_some_iff.mp next
    exact single later rfl rfl
  | case3 => exact .nil

theorem collapseUnderscores_eq_self {l : List Char} (apart : NoDouble l) :
    collapseUnderscores l = l := by
  fun_induction collapseUnderscores l with
  | case1 rest ih => exact absurd ⟨rfl, rfl⟩ (List.isChain_cons_cons.mp apart).1
  | case2 c rest _ ih => rw [ih (List.IsChain.tail apart)]
  | case3 => rfl

/-- The character leaves more than underscores: it is an ASCII letter or digit, or one of the two
characters whose lower case has an ASCII letter. -/
def keepsAscii (c : Char) : Bool :=
  c.toLower.isLower || c.isDigit || c = '\u212a' || c = '\u0130'

theorem toLower_of_isClean {c : Char} (clean : isClean c = true) : c.toLower = c := by
  refine dif_neg fun upper => ?_
  simp only [isClean, Bool.or_eq_true, decide_eq_true_eq] at clean
  rcases clean with (lower | digit) | rfl
  · have above := of_decide_eq_true (Bool.and_eq_true_iff.mp lower).1
    exact absurd (UInt32.le_trans above upper.2) (by decide)
  · have below := of_decide_eq_true (Bool.and_eq_true_iff.mp digit).2
    exact absurd (UInt32.le_trans upper.1 below) (by decide)
  · exact absurd upper.2 (by decide)

theorem isClean_of_mem_cleanChar {c d : Char} (member : d ∈ cleanChar c) : isClean d = true := by
  unfold cleanChar at member
  split at member
  next => simp_all [isClean]
  split at member
  next =>
    rcases List.mem_pair.mp member with rfl | rfl <;> rfl
  split at member
  next kept =>
    obtain rfl : d = c.toLower := by simpa using member
    simp only [Bool.or_eq_true, decide_eq_true_eq] at kept
    rcases kept with (lower | digit) | rfl
    · simp [isClean, lower]
    · have clean : isClean c = true := by simp [isClean, digit]
      rwa [toLower_of_isClean clean]
    · rfl
  next =>
    obtain rfl : d = '_' := by simpa using member
    rfl

theorem cleanChar_of_isClean {c : Char} (clean : isClean c = true) : cleanChar c = [c] := by
  have lower := toLower_of_isClean clean
  unfold cleanChar
  rw [if_neg, if_neg, if_pos, lower]
  · rw [lower]
    exact clean
  · rintro rfl
    revert clean
    decide
  · rintro rfl
    revert clean
    decide

theorem exists_mem_cleanChar_iff (c : Char) :
    (∃ d ∈ cleanChar c, d ≠ '_') ↔ keepsAscii c = true := by
  unfold cleanChar keepsAscii
  split
  next kelvin => simp [kelvin]
  split
  next dotted => simp [dotted]
  split
  next kept =>
    simp only [Bool.or_eq_true, decide_eq_true_eq] at kept
    rcases kept with (lower | digit) | rfl
    · have other : c.toLower ≠ '_' := by
        intro same
        rw [same] at lower
        revert lower
        decide
      simp [lower, other]
    · have other : c ≠ '_' := by
        rintro rfl
        revert digit
        decide
      have clean : isClean c = true := by simp [isClean, digit]
      simp [digit, toLower_of_isClean clean, other]
    · simp
  next => simp_all

/-! ### The whole cleaning -/

/-- A cleaned identification in its normal form. -/
structure Normal (iden : String) : Prop where
  nonempty : iden ≠ ""
  clean : ∀ c ∈ iden.toList, isClean c = true
  bare : Bare (· = '_') iden.toList
  noDouble : NoDouble iden.toList

/-- What the cleaning makes of a string before it strips the underscores. -/
def underscored (s : String) : List Char :=
  collapseUnderscores ((pyStrip s).toList.flatMap cleanChar)

theorem cleanIdentification_some (s : String) : cleanIdentification (some s) =
    if pyStrip s = "" then none
    else some (String.ofList (stripWhere (· = '_') (underscored s))) := rfl

theorem pyStrip_strips (s : String) : Strips (· ∈ pySpaces) s.toList (pyStrip s).toList := by
  rw [pyStrip, String.toList_ofList]
  exact strips_drop _ _

theorem pyStrip_eq_empty_iff (s : String) : pyStrip s = "" ↔ ∀ c ∈ s.toList, c ∈ pySpaces := by
  rw [← String.toList_inj, String.toList_empty, (pyStrip_strips s).eq_nil_iff]
  simp only [decide_eq_true_eq]

theorem pyStrip_of_solid {s : String} (solid : ∀ c ∈ s.toList, c ∉ pySpaces) : pyStrip s = s := by
  have bare : Bare (· ∈ pySpaces) s.toList :=
    bare_of_forall fun c member => by simpa using solid c member
  rw [pyStrip, stripWhere, bare.drop_eq, String.ofList_toList]

theorem isClean_underscored (s : String) : ∀ c ∈ underscored s, isClean c = true := by
  intro c member
  obtain ⟨d, -, cleaned⟩ := List.mem_flatMap.mp ((mem_collapseUnderscores _).mp member)
  exact isClean_of_mem_cleanChar cleaned

/-- No more than underscores is left of a string without ASCII letters or digits. -/
theorem exists_mem_underscored_iff (s : String) :
    (∃ d ∈ underscored s, d ≠ '_') ↔ ∃ c ∈ s.toList, keepsAscii c = true := by
  constructor
  · rintro ⟨d, member, other⟩
    obtain ⟨c, kept, cleaned⟩ := List.mem_flatMap.mp ((mem_collapseUnderscores _).mp member)
    exact ⟨c, (pyStrip_strips s).subset kept, (exists_mem_cleanChar_iff c).mp ⟨d, cleaned, other⟩⟩
  · rintro ⟨c, inside, ascii⟩
    have solid : pySpaces.any keepsAscii = false := by decide
    have kept : c ∈ (pyStrip s).toList := by
      refine (pyStrip_strips s).mem inside fun space => ?_
      exact List.any_eq_false.mp solid c (of_decide_eq_true space) ascii
    obtain ⟨d, cleaned, other⟩ := (exists_mem_cleanChar_iff c).mpr ascii
    exact ⟨d, (mem_collapseUnderscores _).mpr (List.mem_flatMap.mpr ⟨c, kept, cleaned⟩), other⟩

theorem underscored_strips (s : String) :
    Strips (· = '_') (underscored s) (stripWhere (· = '_') (underscored s)) := strips_drop _ _

/-- What is left of a string with an ASCII letter or digit is in normal form. -/
theorem normal_of_ascii {s : String} (ascii : ∃ c ∈ s.toList, keepsAscii c = true) :
    Normal (String.ofList (stripWhere (· = '_') (underscored s))) := by
  have strips := underscored_strips s
  obtain ⟨before, after, parts, -, -⟩ := strips.parts
  refine ⟨fun empty => ?_, ?_, ?_, ?_⟩
  · rw [← String.toList_inj, String.toList_ofList, String.toList_empty, strips.eq_nil_iff] at empty
    obtain ⟨d, member, other⟩ := (exists_mem_underscored_iff s).mpr ascii
    exact other (of_decide_eq_true (empty d member))
  · rw [String.toList_ofList]
    exact fun c member => isClean_underscored s c (strips.subset member)
  · rw [String.toList_ofList]
    exact strips.bare
  · rw [String.toList_ofList]
    have whole : NoDouble (before ++ stripWhere (· = '_') (underscored s) ++ after) := by
      rw [← parts]
      exact noDouble_collapseUnderscores _
    exact whole.left_of_append.right_of_append

/-- A normal form is left as it is. -/
theorem Normal.cleanIdentification_eq {iden : String} (normal : Normal iden) :
    cleanIdentification (some iden) = some iden := by
  have spaces : pySpaces.any isClean = false := by decide
  have stripped : pyStrip iden = iden := by
    refine pyStrip_of_solid fun c member space => ?_
    exact List.any_eq_false.mp spaces c space (normal.clean c member)
  have same : iden.toList.flatMap cleanChar = iden.toList := by
    have single := List.flatMap_congr fun c member => cleanChar_of_isClean (normal.clean c member)
    rw [single, List.flatMap_singleton']
  rw [cleanIdentification_some, underscored, stripped, if_neg normal.nonempty, same,
    collapseUnderscores_eq_self normal.noDouble, stripWhere, normal.bare.drop_eq,
    String.ofList_toList]

/-! ### How the builders read it -/

/-- What both the form and the migration may rely on. -/
structure ReadAlike (iden : Option String) : Prop where
  normal : ∀ cleaned, cleanIdentification iden = some cleaned → Normal cleaned
  idempotent : cleanIdentification (cleanIdentification iden) = cleanIdentification iden
  /-- Without a serial, either builder takes the identification, or either takes the host. -/
  agree : ∀ host uid, getOldId uid ⟨none, cleanIdentification iden, host⟩ =
    uniqueIdGenerator ⟨none, cleanIdentification iden, host⟩ uid none

theorem readAlike_of_none {iden : Option String} (nothing : cleanIdentification iden = none) :
    ReadAlike iden := by
  refine ⟨fun cleaned some => ?_, ?_, fun host uid => ?_⟩
  · rw [nothing] at some
    cases some
  · rw [nothing]
    rfl
  · rw [nothing]
    rfl

theorem readAlike_of_normal {iden : Option String} {cleaned : String}
    (result : cleanIdentification iden = some cleaned) (normal : Normal cleaned) :
    ReadAlike iden := by
  refine ⟨fun other some => ?_, ?_, fun host uid => ?_⟩
  · rw [result] at some
    exact Option.some.inj some ▸ normal
  · rw [result, normal.cleanIdentification_eq]
  · rw [result]
    unfold getOldId
    split
    next none => cases none
    next empty => exact absurd (Option.some.inj empty) normal.nonempty
    next kept =>
      cases kept
      rfl

/-- The identification has nothing to clean, or something that is left when it is cleaned. -/
def Cleanable : Option String → Prop
  | none => True
  | some s => (∀ c ∈ s.toList, c ∈ pySpaces) ∨ ∃ c ∈ s.toList, keepsAscii c = true

/-- A cleaned identification is in normal form, stays as it is when it is cleaned again, and is read
alike by both builders of ids, unless it is cleaned to nothing at all. -/
theorem readAlike_iff (iden : Option String) : ReadAlike iden ↔ Cleanable iden := by
  cases iden with
  | none => exact ⟨fun _ => trivial, fun _ => readAlike_of_none rfl⟩
  | some s =>
    by_cases spaces : ∀ c ∈ s.toList, c ∈ pySpaces
    · have nothing : cleanIdentification (some s) = none := if_pos ((pyStrip_eq_empty_iff s).mpr spaces)
      exact ⟨fun _ => .inl spaces, fun _ => readAlike_of_none nothing⟩
    · have result := (cleanIdentification_some s).trans
        (if_neg (mt (pyStrip_eq_empty_iff s).mp spaces))
      constructor
      · intro alike
        -- Were there underscores only, nothing would be left of them.
        by_contra bad
        refine (alike.normal _ result).nonempty ?_
        rw [← String.toList_inj, String.toList_ofList, String.toList_empty,
          (underscored_strips s).eq_nil_iff]
        intro d member
        by_contra other
        have ascii := (exists_mem_underscored_iff s).mp ⟨d, member, by simpa using other⟩
        exact bad (.inr ascii)
      · rintro (blank | ascii)
        · exact absurd blank spaces
        · exact readAlike_of_normal result (normal_of_ascii ascii)

theorem exclamation_not_readAlike :
    cleanIdentification (some "!!") = some "" ∧ cleanIdentification (some "") = none ∧
      getOldId "soc" ⟨none, some "", "10.0.0.5"⟩ = "hh_modbus_control_10.0.0.5_soc" ∧
      uniqueIdGenerator ⟨none, some "", "10.0.0.5"⟩ "soc" none = "hh_modbus_control__soc" ∧
      ¬ ReadAlike (some "!!") := by
  have result : cleanIdentification (some "!!") = some "" := by decide +kernel
  exact ⟨result, by decide +kernel, by decide +kernel, by decide +kernel,
    fun alike => (alike.normal _ result).nonempty rfl⟩

end HHModbus
