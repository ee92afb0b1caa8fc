import Mathlib.Data.List.Basic
import Mathlib.Data.List.Infix
import Mathlib.Data.List.Nodup

/-!
# Keys made of parts

Strings that join parts with a separator. The parts can be read back from the key as far as the
separator does not occur in them; the first part may contain it.
-/
namespace Keys

/-- What stands before the first separator, and after it. -/
theorem first_separator_inj {α : Type*} {sep : α} {before before' after after' : List α}
    (free : sep ∉ before) (free' : sep ∉ before')
    (same : before ++ sep :: after = before' ++ sep :: after') :
    before = before' ∧ after = after' := by
  induction before generalizing before' with
  | nil =>
    cases before' with
    | nil => exact ⟨rfl, (List.cons.inj same).2⟩
    | cons a rest => exact absurd (List.mem_cons.mpr (.inl (List.cons.inj same).1)) free'
  | cons a rest ih =>
    cases before' with
    | nil => exact absurd (List.mem_cons.mpr (.inl (List.cons.inj same).1.symm)) free
    | cons b rest' =>
      rw [List.mem_cons, not_or] at free free'
      obtain ⟨rfl, tails⟩ := List.cons.inj same
      obtain ⟨rfl, rfl⟩ := ih free.2 free'.2 tails
      exact ⟨rfl, rfl⟩

/-- What stands before the last separator, and after it. -/
theorem last_separator_inj {α : Type*} {sep : α} {before before' after after' : List α}
    (free : sep ∉ after) (free' : sep ∉ after')
    (same : before ++ sep :: after = before' ++ sep :: after') :
    before = before' ∧ after = after' := by
  have reversed : after.reverse ++ sep :: before.reverse =
      after'.reverse ++ sep :: before'.reverse := by
    have both := congrArg List.reverse same
    simpa only [List.reverse_append, List.reverse_cons, List.append_assoc,
      List.singleton_append] using both
  obtain ⟨afters, befores⟩ := first_separator_inj (by simpa using free) (by simpa using free') reversed
  exact ⟨List.reverse_injective befores, List.reverse_injective afters⟩

/-- The key begins with the mark, and the mark does not stand behind a separator in it. -/
structure Marked {α : Type*} (sep : α) (mark key : List α) : Prop where
  starts : mark <+: key
  once : ¬ sep :: mark <:+: key

/-- The mark stands behind a separator. -/
def behind {α : Type*} [DecidableEq α] (sep : α) (mark : List α) : List α → Bool
  | [] => false
  | a :: rest => (a == sep && mark.isPrefixOf rest) || behind sep mark rest

def isMarked {α : Type*} [DecidableEq α] (sep : α) (mark key : List α) : Bool :=
  mark.isPrefixOf key && !behind sep mark key

theorem not_isInfix_of_behind {α : Type*} [DecidableEq α] {sep : α} {mark key : List α}
    (absent : behind sep mark key = false) : ¬ sep :: mark <:+: key := by
  induction key with
  | nil => simp
  | cons a rest ih =>
    simp only [behind, Bool.or_eq_false_iff, Bool.and_eq_false_iff, beq_eq_false_iff_ne] at absent
    rw [List.infix_cons_iff]
    rintro (here | later)
    · obtain ⟨same, marked⟩ := List.cons_prefix_cons.mp here
      rcases absent.1 with other | unmarked
      · exact other same.symm
      · rw [List.isPrefixOf_iff_prefix.mpr marked] at unmarked
        cases unmarked
    · exact ih absent.2 later

theorem marked_of_isMarked {α : Type*} [DecidableEq α] {sep : α} {mark key : List α}
    (marked : isMarked sep mark key = true) : Marked sep mark key := by
  simp only [isMarked, Bool.and_eq_true, Bool.not_eq_true'] at marked
  exact ⟨List.isPrefixOf_iff_prefix.mp marked.1, not_isInfix_of_behind marked.2⟩

/-- What stands before a marked key, and the key. -/
theorem marked_inj {α : Type*} {sep : α} {mark before before' key key' : List α}
    (marked : Marked sep mark key) (marked' : Marked sep mark key')
    (same : before ++ sep :: key = before' ++ sep :: key') : before = before' ∧ key = key' := by
  -- The longer key would have the shorter one behind a separator.
  have longest {a b k l : List α} (marks : Marked sep mark k) (marks' : Marked sep mark l)
      (same : a ++ sep :: k = b ++ sep :: l) : l.length ≤ k.length := by
    by_contra longer
    have own : l <:+ b ++ sep :: l := (List.suffix_cons sep l).trans (List.suffix_append b _)
    have suffix : sep :: k <:+ l := by
      refine List.suffix_of_suffix_length_le ⟨a, same⟩ own ?_
      rw [List.length_cons]
      omega
    obtain ⟨rest, parts⟩ := marks.starts
    have prefix_ : sep :: mark <+: sep :: k := ⟨rest, by rw [← parts]; rfl⟩
    exact marks'.once (prefix_.isInfix.trans suffix.isInfix)
  have lengths : key.length = key'.length :=
    Nat.le_antisymm (longest marked' marked same.symm) (longest marked marked' same)
  obtain ⟨befores, keys⟩ := List.append_inj' same (by rw [List.length_cons, List.length_cons, lengths])
  exact ⟨befores, (List.cons.inj keys).2⟩

/-- What stands behind each occurrence of a mark. -/
def behindMarks {α : Type*} [DecidableEq α] (mark l : List α) : List (List α) :=
  (l.tails.filter fun rest => mark.isPrefixOf rest).map fun rest => rest.drop mark.length

theorem mem_behindMarks {α : Type*} [DecidableEq α] {mark l rest : List α} :
    rest ∈ behindMarks mark l ↔ mark ++ rest <:+ l := by
  simp only [behindMarks, List.mem_map, List.mem_filter, List.mem_tails, List.isPrefixOf_iff_prefix]
  constructor
  · rintro ⟨tail, ⟨suffix, parts, rfl⟩, rfl⟩
    rwa [List.drop_left]
  · intro suffix
    exact ⟨mark ++ rest, ⟨suffix, List.prefix_append _ _⟩, List.drop_left⟩

/-- Behind a mark that occurs once stands one key. -/
theorem marked_once_inj {α : Type*} [DecidableEq α] {mark l key key' : List α} {sep : α}
    (once : (behindMarks mark l).length ≤ 1) (free : sep ∉ key) (free' : sep ∉ key')
    (inside : mark ++ key ++ [sep] <:+: l) (inside' : mark ++ key' ++ [sep] <:+: l) : key = key' := by
  -- The key and its separator begin what stands behind the mark.
  have found {k : List α} (inside : mark ++ k ++ [sep] <:+: l) :
      ∃ after, k ++ sep :: after ∈ behindMarks mark l := by
    obtain ⟨before, after, parts⟩ := inside
    refine ⟨after, mem_behindMarks.mpr ⟨before, ?_⟩⟩
    rw [← parts]
    simp only [List.append_assoc, List.cons_append, List.nil_append]
  obtain ⟨after, first⟩ := found inside
  obtain ⟨after', second⟩ := found inside'
  have same : key ++ sep :: after = key' ++ sep :: after' := by
    match marks : behindMarks mark l, once with
    | [], _ =>
      rw [marks] at first
      cases first
    | [only], _ =>
      rw [marks, List.mem_singleton] at first second
      rw [first, second]
  exact (first_separator_inj free free' same).1

/-- The strings consist of these characters. Where the strings are literals, a proof spells them
out, and what is then evaluated has nothing to decode. -/
inductive Spelled : List (List Char) → List String → Prop where
  | nil : Spelled [] []
  | cons (chars : List Char) (rest : List (List Char)) (others : List String)
      (spelled : Spelled rest others) : Spelled (chars :: rest) (String.ofList chars :: others)

theorem Spelled.nodup {spelling : List (List Char)} {strings : List String}
    (spelled : Spelled spelling strings) (nodup : spelling.Nodup) : strings.Nodup := by
  have spells : strings = spelling.map String.ofList := by
    induction spelled with
    | nil => rfl
    | cons chars rest others _ ih =>
      rw [List.map_cons, ← ih nodup.of_cons]
  rw [spells]
  exact List.Nodup.map (fun _ _ => String.ofList_injective) nodup

theorem Spelled.toList_mem {spelling : List (List Char)} {strings : List String}
    (spelled : Spelled spelling strings) {s : String} (member : s ∈ strings) :
    s.toList ∈ spelling := by
  induction spelled with
  | nil => cases member
  | cons chars rest others _ ih =>
    rcases List.mem_cons.mp member with rfl | later
    · rw [String.toList_ofList]
      exact List.mem_cons_self
    · exact List.mem_cons_of_mem _ (ih later)

/-- Each number is none of those before it, which are the bits of `seen`. -/
def allNew (seen : Nat) : List Nat → Bool
  | [] => true
  | n :: rest => !seen.testBit n && allNew (seen ||| 1 <<< n) rest

theorem nodup_of_allNew {seen : Nat} {l : List Nat} (new : allNew seen l = true) :
    l.Nodup ∧ ∀ n ∈ l, seen.testBit n = false := by
  induction l generalizing seen with
  | nil => simp
  | cons n rest ih =>
    simp only [allNew, Bool.and_eq_true, Bool.not_eq_true'] at new
    obtain ⟨nodup, unseen⟩ := ih new.2
    simp only [Nat.testBit_or, Bool.or_eq_false_iff] at unseen
    constructor
    · refine List.nodup_cons.mpr ⟨fun again => ?_, nodup⟩
      simpa using (unseen n again).2
    · intro m member
      rcases List.mem_cons.mp member with rfl | later
      · exact new.1
      · exact (unseen m later).1

theorem toString_nat_injective : Function.Injective (toString : Nat → String) := by
  intro m n same
  have digits : Nat.toDigits 10 m = Nat.toDigits 10 n := by
    rw [← Nat.toList_repr, ← Nat.toList_repr]
    exact congrArg String.toList same
  rw [← Nat.ofDigitChars_ten_toDigits (n := m), digits, Nat.ofDigitChars_ten_toDigits]

/-- A separator that is no digit does not occur in a number. -/
theorem notMem_toString {sep : Char} (other : sep.isDigit = false) (n : Nat) :
    sep ∉ (toString n).toList := by
  intro member
  have digit := Nat.isDigit_of_mem_toDigits (by decide) (by decide) (Nat.toList_repr ▸ member)
  rw [other] at digit
  cases digit

theorem toString_negSucc (n : Nat) :
    (toString (Int.negSucc n)).toList = '-' :: (toString (n + 1)).toList := by
  simp [Int.repr_eq_if]

theorem toString_int_injective : Function.Injective (toString : Int → String) := by
  -- A sign is no digit.
  have signed (m n : Nat) : toString (Int.ofNat m) ≠ toString (Int.negSucc n) := by
    intro same
    have sign : '-' ∈ (toString m).toList := by
      have letters := congrArg String.toList same
      rw [toString_negSucc] at letters
      exact letters ▸ List.mem_cons_self
    exact notMem_toString (by decide) m sign
  intro i j same
  cases i with
  | ofNat m =>
    cases j with
    | ofNat n => exact congrArg Int.ofNat (toString_nat_injective same)
    | negSucc n => exact absurd same (signed m n)
  | negSucc m =>
    cases j with
    | ofNat n => exact absurd same.symm (signed n m)
    | negSucc n =>
      have letters := congrArg String.toList same
      rw [toString_negSucc, toString_negSucc] at letters
      have digits := toString_nat_injective (String.ext (List.cons.inj letters).2)
      exact congrArg Int.negSucc (Nat.succ.inj digits)

theorem notMem_toString_int {sep : Char} (other : sep.isDigit = false) (unsigned : sep ≠ '-')
    (i : Int) : sep ∉ (toString i).toList := by
  cases i with
  | ofNat n => exact notMem_toString other n
  | negSucc n =>
    rw [toString_negSucc, List.mem_cons, not_or]
    exact ⟨unsigned, notMem_toString other _⟩

/-- A key that ends with two integers is read from its end. -/
theorem two_integers_inj (sep : Char) (other : sep.isDigit = false) (unsigned : sep ≠ '-')
    {before before' : List Char} {i i' j j' : Int}
    (same : before ++ sep :: (toString i).toList ++ sep :: (toString j).toList =
      before' ++ sep :: (toString i').toList ++ sep :: (toString j').toList) :
    before = before' ∧ i = i' ∧ j = j' := by
  have free := notMem_toString_int other unsigned
  obtain ⟨rest, last⟩ := last_separator_inj (free j) (free j') same
  obtain ⟨first, middle⟩ := last_separator_inj (free i) (free i') rest
  exact ⟨first, toString_int_injective (String.ext middle), toString_int_injective (String.ext last)⟩

end Keys
