import Mathlib.Data.List.Forall2
import EscapeKey.Proofs.Override.Matches

/-! Edits of a table of rules. A new rule answers where it matches and no rule in front of it does,
and everywhere else the table answers as before. How a rule writes down what it requires has no
effect.
-/

namespace EscapeKey.Override

variable {rules others before after : List Rule} {r : Rule} {held : Mods}

-----------------------------------------------------------------------------------------
-- A rule among others
-----------------------------------------------------------------------------------------

/-- The rule that applies stands at the place where the first match is. -/
theorem resolve_eq_bind_resolvedAt (rules : List Rule) (held : Mods)
    : resolve rules held = (resolvedAt rules held).bind (rules[·]?) := by
  rw [resolve_eq_find?, resolvedAt_eq_findIdx?, List.find?_eq_bind_findIdx?_getElem?]

/-- A rule is the one that applies, at its own place, exactly if it matches and none in front of it
does.
-/
theorem resolvedAt_insert_iff
    : resolvedAt (before ++ [r] ++ after) held = some before.length
      ↔ r.isMatch held = true ∧ ∀ a ∈ before, a.isMatch held = false := by
  rw [resolvedAt_eq_findIdx?, List.append_assoc, List.singleton_append, List.findIdx?_append,
    List.findIdx?_cons]
  cases first : before.findIdx? (·.isMatch held) with
  | none =>
      rw [List.findIdx?_eq_none_iff] at first
      cases applies : r.isMatch held with
      | true => simpa using first
      | false =>
          -- what applies behind has a later place
          refine iff_of_false (fun place => ?_) nofun
          simp only [Bool.false_eq_true, if_false, Option.none_or, Option.map_eq_some_iff] at place
          obtain ⟨_, ⟨i, _, rfl⟩, same⟩ := place
          omega
  | some i =>
      -- a rule in front that matches has an earlier place
      obtain ⟨inside, matched, _⟩ := List.findIdx?_eq_some_iff_getElem.mp first
      have earlier : i ≠ before.length := Nat.ne_of_lt inside
      have notAll : ¬ ∀ a ∈ before, a.isMatch held = false := fun passed =>
        absurd (matched.symm.trans (passed _ (List.getElem_mem inside))) nofun
      simp [earlier, notAll]

theorem resolve_insert_of_first (applies : r.isMatch held = true)
    (first : ∀ a ∈ before, a.isMatch held = false)
    : resolve (before ++ [r] ++ after) held = some r := by
  rw [resolve_eq_bind_resolvedAt, resolvedAt_insert_iff.mpr ⟨applies, first⟩]
  simp

/-- A rule that does not match, or stands behind one that does, is passed over. -/
theorem resolve_insert_of_not_first
    (hidden : ¬ (r.isMatch held = true ∧ ∀ a ∈ before, a.isMatch held = false))
    : resolve (before ++ [r] ++ after) held = resolve (before ++ after) held := by
  simp only [resolve_eq_find?, List.append_assoc, List.singleton_append, List.find?_append]
  cases found : before.find? (·.isMatch held) with
  | some a => rfl
  | none =>
      have first : ∀ a ∈ before, a.isMatch held = false := fun a member =>
        Bool.eq_false_iff.mpr (List.find?_eq_none.mp found a member)
      have passed : r.isMatch held = false :=
        Bool.eq_false_iff.mpr fun applies => hidden ⟨applies, first⟩
      rw [List.find?_cons, passed]

/-- The answer is the rule exactly if it matches and none in front of it does, unless there is a
copy of it in front, which would be the answer as well.
-/
theorem resolve_insert_eq_some_iff (fresh : r ∉ before)
    : resolve (before ++ [r] ++ after) held = some r
      ↔ r.isMatch held = true ∧ ∀ a ∈ before, a.isMatch held = false := by
  refine ⟨fun answer => ?_, fun both => resolve_insert_of_first both.1 both.2⟩
  rw [resolve_eq_find?, List.append_assoc, List.singleton_append, List.find?_append] at answer
  cases found : before.find? (·.isMatch held) with
  | some a =>
      rw [found, Option.some_or] at answer
      exact absurd (Option.some.inj answer ▸ List.mem_of_find?_eq_some found) fresh
  | none =>
      rw [found, Option.none_or] at answer
      refine ⟨List.find?_some (p := (Rule.isMatch · held)) answer, fun a member => ?_⟩
      exact Bool.eq_false_iff.mpr (List.find?_eq_none.mp found a member)

/-- What resolves keeps its answer when a rule is added at the end. -/
theorem resolvedAt_append {i : Nat} (resolved : resolvedAt rules held = some i)
    (rest : List Rule)
    : resolvedAt (rules ++ rest) held = some i := by
  rw [resolvedAt_eq_findIdx?] at resolved ⊢
  rw [List.findIdx?_append, resolved]
  rfl

-----------------------------------------------------------------------------------------
-- Rules that require alike
-----------------------------------------------------------------------------------------

/-- Where the rules of two tables require alike, place by place, the same place applies, by
induction on the tables.
-/
theorem resolvedAt_congr (alike : rules.Forall₂ Rule.RequiresAlike others) (held : Mods)
    : resolvedAt rules held = resolvedAt others held := by
  rw [resolvedAt_eq_findIdx?, resolvedAt_eq_findIdx?]
  induction alike with
  | nil => rfl
  | cons first _ ih => rw [List.findIdx?_cons, List.findIdx?_cons, first.isMatch_eq, ih]

/-- The rules that apply agree in all but the order and the repetitions of what they require, by
induction on the tables.
-/
theorem resolve_congr (alike : rules.Forall₂ Rule.RequiresAlike others) (held : Mods)
    : Option.Rel Rule.RequiresAlike (resolve rules held) (resolve others held) := by
  rw [resolve_eq_find?, resolve_eq_find?]
  induction alike with
  | nil => exact .none
  | @cons r s _ _ first _ ih =>
      rw [List.find?_cons, List.find?_cons, ← first.isMatch_eq held]
      cases r.isMatch held with
      | true => exact .some first
      | false => exact ih

-----------------------------------------------------------------------------------------
-- The effect of an edit
-----------------------------------------------------------------------------------------

/-- Editing a table has a local effect. The rule that applies stands at the place of the first
match, so that a rule applies, as itself, exactly if it matches and none in front of it does, and
otherwise the table answers as it does without the rule. A rule at the end takes no place away. The
order and the repetitions of what rules require change nothing but the required lists themselves, a
rule that is not exact still matches when more keys are held, and no rule matches where nothing is
held.
-/
theorem resolve_edited
    : (∀ rules held, resolve rules held = (resolvedAt rules held).bind (rules[·]?))
      ∧ (∀ before r after held,
        let first := r.isMatch held = true ∧ ∀ a ∈ before, a.isMatch held = false
        (resolvedAt (before ++ [r] ++ after) held = some before.length ↔ first)
        ∧ (first → resolve (before ++ [r] ++ after) held = some r)
        ∧ (r ∉ before → (resolve (before ++ [r] ++ after) held = some r ↔ first))
        ∧ (¬ first → resolve (before ++ [r] ++ after) held = resolve (before ++ after) held))
      ∧ (∀ rules r held i,
        resolvedAt rules held = some i
        → resolvedAt (rules ++ [r]) held = some i
          ∧ resolve (rules ++ [r]) held = resolve rules held)
      ∧ (∀ rules others,
        rules.Forall₂ Rule.RequiresAlike others
        → ∀ held,
          resolvedAt rules held = resolvedAt others held
          ∧ Option.Rel Rule.RequiresAlike (resolve rules held) (resolve others held))
      ∧ (∀ (r : Rule) (held more : Mods),
        held.isWithin more = true
        → r.exact = false
        → r.isMatch held = true
        → r.isMatch more = true)
      ∧ (∀ rules held, resolve rules held = rules.find? (·.isMatch held))
      ∧ ∀ (r : Rule) (held : Mods), held.isEmpty = true → r.isMatch held = false := by
  refine ⟨resolve_eq_bind_resolvedAt, ?insert, ?append, ?alike, ?loose, resolve_eq_find?, ?empty⟩
  case insert =>
    intro before r after held first
    exact ⟨resolvedAt_insert_iff, fun both => resolve_insert_of_first both.1 both.2,
      resolve_insert_eq_some_iff, resolve_insert_of_not_first⟩
  case append =>
    intro rules r held i resolved
    refine ⟨resolvedAt_append resolved [r], ?_⟩
    obtain ⟨inside, _⟩ := List.findIdx?_eq_some_iff_getElem.mp
      (resolvedAt_eq_findIdx? rules held ▸ resolved)
    rw [resolve_eq_bind_resolvedAt, resolve_eq_bind_resolvedAt, resolvedAt_append resolved [r],
      resolved]
    simp [List.getElem?_append_left inside]
  case alike => exact fun _ _ alike held => ⟨resolvedAt_congr alike held, resolve_congr alike held⟩
  case loose => exact fun _ _ _ => Rule.isMatch_of_isWithin
  case empty => exact fun r _ nothing => Rule.isMatch_of_isEmpty nothing r

/-- A rule for shift between a rule for alt and one that requires both. A copy of it in front takes
its place, and writing that copy with shift twice changes nothing.
-/
theorem resolve_edited_among_two
    : let rule := fun name required =>
        ({ name, required, exact := false, suppress := ∅, emit := .bare .grave } : Rule)
      let alt := rule "alt" [.generic .alt]
      let shift := rule "shift" [.generic .shift]
      let both := rule "both" [.generic .alt, .generic .shift]
      let twice := rule "shift" [.generic .shift, .generic .shift]
      let shiftHeld : Mods := ⟨0x20#8⟩
      let bothHeld : Mods := ⟨0x24#8⟩
      resolvedAt ([alt] ++ [shift] ++ [both]) shiftHeld = some 1
      ∧ resolve ([alt] ++ [shift] ++ [both]) shiftHeld = some shift
      ∧ shift ∉ [alt]
      ∧ resolve ([alt] ++ [shift] ++ [both]) bothHeld = resolve ([alt] ++ [both]) bothHeld
      ∧ resolvedAt ([shift] ++ [shift] ++ [both]) shiftHeld ≠ some 1
      ∧ resolve ([alt] ++ [both]) bothHeld = resolve [alt] bothHeld
      ∧ resolvedAt [shift, shift, both] shiftHeld = resolvedAt [twice, shift, both] shiftHeld
      ∧ shift.isMatch bothHeld = true
      ∧ shift.isMatch ∅ = false := by
  intro rule alt shift both twice shiftHeld bothHeld
  obtain ⟨_, insert, append, alike, loose, _, empty⟩ := resolve_edited
  obtain ⟨place, _, answer, _⟩ := insert [alt] shift [both] shiftHeld
  obtain ⟨_, _, _, hidden⟩ := insert [alt] shift [both] bothHeld
  obtain ⟨copied, _⟩ := insert [shift] shift [both] shiftHeld
  have first : shift.isMatch shiftHeld = true ∧ ∀ a ∈ [alt], a.isMatch shiftHeld = false := by
    decide
  have fresh : shift ∉ [alt] := by decide
  have same : [shift, shift, both].Forall₂ Rule.RequiresAlike [twice, shift, both] :=
    .cons ⟨rfl, by simp [shift, twice, rule]⟩
      (.cons ⟨rfl, fun _ => .rfl⟩ (.cons ⟨rfl, fun _ => .rfl⟩ .nil))
  exact ⟨place.mpr first, (answer fresh).mpr first, fresh, hidden (by decide),
    mt copied.mp (by decide), (append [alt] both bothHeld 0 (by decide)).2,
    (alike _ _ same shiftHeld).1, loose shift shiftHeld bothHeld (by decide) rfl first.1,
    empty shift ∅ rfl⟩

end EscapeKey.Override
