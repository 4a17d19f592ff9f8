import Mathlib.Data.List.TakeWhile
import EscapeKey.Text.Blank
import EscapeKey.Text.Decimal

/-! Texts that are put together from words. Splitting gives the words back, trimming leaves a word
as it is, and a numeral is a word that reads as its number.
-/

namespace EscapeKey.Text

/-- A character that is neither blank nor the beginning of a comment. -/
def isWordChar (c : Char) : Bool :=
  !isBlank c && c != '#'

/-- A text in one piece, with no comment in it. -/
def IsWord (s : List Char) : Prop :=
  s ≠ [] ∧ s.all isWordChar = true

instance (s : List Char) : Decidable (IsWord s) :=
  inferInstanceAs (Decidable (_ ∧ _))

theorem IsWord.append {s t : List Char} (first : IsWord s) (second : IsWord t)
    : IsWord (s ++ t) := by
  refine ⟨by simp [first.1], ?_⟩
  rw [List.all_append, first.2, second.2]
  rfl

theorem IsWord.not_blank {s : List Char} (word : IsWord s) {c : Char} (member : c ∈ s)
    : isBlank c = false := by
  have plain := List.all_eq_true.mp word.2 c member
  simp only [isWordChar, Bool.and_eq_true, Bool.not_eq_true'] at plain
  exact plain.1

theorem IsWord.not_comment {s : List Char} (word : IsWord s) : '#' ∉ s := by
  intro member
  have plain := List.all_eq_true.mp word.2 '#' member
  contradiction

-----------------------------------------------------------------------------------------
-- Splitting, trimming and cutting
-----------------------------------------------------------------------------------------

/-- A character of a joined text comes from the separator or from one of the pieces. -/
theorem mem_intercalate {α : Type} {sep : List α} {pieces : List (List α)} {a : α}
    (member : a ∈ sep.intercalate pieces)
    : a ∈ sep ∨ ∃ piece ∈ pieces, a ∈ piece := by
  induction pieces with
  | nil => simp at member
  | cons first rest ih =>
      cases rest with
      | nil => exact .inr ⟨first, by simp, by simpa using member⟩
      | cons second rest =>
          rw [List.intercalate_cons_cons, List.mem_append, List.mem_append] at member
          rcases member with (member | member) | member
          · exact .inr ⟨first, by simp, member⟩
          · exact .inl member
          · refine (ih member).imp id ?_
            rintro ⟨piece, listed, inside⟩
            exact ⟨piece, List.mem_cons_of_mem first listed, inside⟩

/-- Pieces without separators are split apart where they have been joined, by induction on the
pieces.
-/
theorem splitOnP_intercalate {α : Type} {p : α → Bool} {sep : α} (separates : p sep = true)
    {pieces : List (List α)} (nonempty : pieces ≠ [])
    (plain : ∀ piece ∈ pieces, ∀ a ∈ piece, p a = false)
    : ([sep].intercalate pieces).splitOnP p = pieces := by
  induction pieces with
  | nil => contradiction
  | cons first rest ih =>
      have firstPlain := plain first List.mem_cons_self
      cases rest with
      | nil => rw [List.intercalate_singleton, List.splitOnP_eq_singleton firstPlain]
      | cons second rest =>
          have later := ih (by simp) fun piece listed =>
            plain piece (List.mem_cons_of_mem first listed)
          rw [List.intercalate_cons_cons, List.append_assoc, List.singleton_append,
            List.splitOnP_append_cons_of_forall_mem firstPlain sep separates, later]

/-- Words joined by spaces are the words of the joined text. -/
theorem words_intercalate {pieces : List (List Char)} (plain : ∀ piece ∈ pieces, IsWord piece)
    : words ([' '].intercalate pieces) = pieces := by
  by_cases empty : pieces = []
  · rw [empty]
    rfl
  · have split : ([' '].intercalate pieces).splitOnP isBlank = pieces :=
      splitOnP_intercalate (by decide) empty fun piece listed c member =>
        (plain piece listed).not_blank member
    rw [words, split, List.filter_eq_self]
    intro piece listed
    simp [(plain piece listed).1]

theorem trim_of_forall_not_blank {s : List Char} (plain : ∀ c ∈ s, isBlank c = false)
    : trim s = s := by
  have first : trimStart s = s := by
    rw [trimStart, List.dropWhile_eq_self_iff]
    intro inside
    exact Bool.eq_false_iff.mp (plain s[0] (List.getElem_mem inside))
  rw [trim, first, trimEnd]
  have last : s.reverse.dropWhile isBlank = s.reverse := by
    rw [List.dropWhile_eq_self_iff]
    intro inside
    exact Bool.eq_false_iff.mp (plain _ (List.mem_reverse.mp (List.getElem_mem inside)))
  rw [last, List.reverse_reverse]

theorem IsWord.trim_eq {s : List Char} (word : IsWord s) : trim s = s :=
  trim_of_forall_not_blank fun _ => word.not_blank

theorem cut_of_not_mem {c : Char} {s : List Char} (absent : c ∉ s) : cut c s = (s, none) := by
  have all : s.dropWhile (· != c) = [] := by
    rw [List.dropWhile_eq_nil_iff]
    intro x member
    exact bne_iff_ne.mpr (ne_of_mem_of_not_mem member absent)
  rw [cut, all]

theorem cut_append_cons {c : Char} {s : List Char} (absent : c ∉ s) (rest : List Char)
    : cut c (s ++ c :: rest) = (s, some rest) := by
  have before : ∀ x ∈ s, (x != c) = true :=
    fun x member => bne_iff_ne.mpr (ne_of_mem_of_not_mem member absent)
  rw [cut, List.dropWhile_append_of_pos before, List.takeWhile_append_of_pos before]
  simp

theorem eq_append_of_cut_eq {c : Char} {s before after : List Char}
    (split : cut c s = (before, some after))
    : s = before ++ c :: after := by
  by_cases present : c ∈ s
  · obtain ⟨first, rest, rfl, plain⟩ := List.eq_append_cons_of_mem present
    rw [cut_append_cons plain, Prod.mk.injEq, Option.some.injEq] at split
    rw [split.1, split.2]
  · rw [cut_of_not_mem present] at split
    simp at split

/-- Behind the first `c` nothing can change the part in front of it. -/
theorem cut_fst_append_of_mem {c : Char} {s : List Char} (present : c ∈ s) (t : List Char)
    : (cut c (s ++ t)).1 = (cut c s).1 := by
  obtain ⟨before, after, rfl, plain⟩ := List.eq_append_cons_of_mem present
  rw [List.append_assoc, List.cons_append, cut_append_cons plain, cut_append_cons plain]

theorem cut_fst_append_of_not_mem {c : Char} {s : List Char} (absent : c ∉ s) (t : List Char)
    : (cut c (s ++ t)).1 = s ++ (cut c t).1 := by
  by_cases present : c ∈ t
  · obtain ⟨before, after, rfl, plain⟩ := List.eq_append_cons_of_mem present
    have nowhere : c ∉ s ++ before := by simp [absent, plain]
    rw [← List.append_assoc, cut_append_cons nowhere, cut_append_cons plain]
  · have nowhere : c ∉ s ++ t := by simp [absent, present]
    rw [cut_of_not_mem nowhere, cut_of_not_mem present]

theorem cut_fst_append_cons_self (c : Char) (s t : List Char)
    : (cut c (s ++ c :: t)).1 = (cut c s).1 := by
  by_cases present : c ∈ s
  · exact cut_fst_append_of_mem present _
  · rw [cut_append_cons present, cut_of_not_mem present]

-----------------------------------------------------------------------------------------
-- Numerals
-----------------------------------------------------------------------------------------

theorem isWordChar_of_isDigit {c : Char} (digit : c.isDigit = true) : isWordChar c = true := by
  obtain ⟨low, high⟩ := Char.isDigit_iff_toNat.mp digit
  change 48 ≤ c.toNat at low
  change c.toNat ≤ 57 at high
  have blank : isBlank c = false := by
    simp only [isBlank, Bool.or_eq_false_iff, Bool.and_eq_false_iff, decide_eq_false_iff_not,
      beq_eq_false_iff_ne]
    omega
  have comment : c ≠ '#' := by
    rintro rfl
    contradiction
  simp [isWordChar, blank, comment]

theorem isWord_toDigits (n : Nat) : IsWord (Nat.toDigits 10 n) := by
  refine ⟨Nat.toDigits_ne_nil, List.all_eq_true.mpr fun c member => ?_⟩
  exact isWordChar_of_isDigit (Nat.isDigit_of_mem_toDigits (by decide) (by decide) member)

/-- The decimal numeral of a number of 64 bits reads as that number. -/
theorem readUInt64?_toDigits (n : UInt64)
    : readUInt64? (Nat.toDigits 10 n.toNat) = some n := by
  have digits : ∀ c ∈ Nat.toDigits 10 n.toNat, c.isDigit = true := fun c member =>
    Nat.isDigit_of_mem_toDigits (by decide) (by decide) member
  have allDigits : (Nat.toDigits 10 n.toNat).all Char.isDigit = true :=
    List.all_eq_true.mpr digits
  -- a written number begins with a digit, so that no sign is taken off it
  have unsigned : ∀ rest, Nat.toDigits 10 n.toNat ≠ '+' :: rest := by
    intro rest signed
    have sign := digits '+' (by simp [signed])
    contradiction
  have fits : ¬ UInt64.size ≤ n.toNat := Nat.not_le.mpr n.toNat_lt_size
  have value := Nat.ofDigitChars_ten_toDigits (n := n.toNat)
  unfold readUInt64?
  split
  case h_1 rest signed => exact absurd signed (unsigned rest)
  case h_2 => simp [value, fits, allDigits]

end EscapeKey.Text
