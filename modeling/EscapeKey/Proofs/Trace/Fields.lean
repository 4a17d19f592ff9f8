import Mathlib.Data.List.Nodup
import EscapeKey.Proofs.Mods.Lists
import EscapeKey.Proofs.Trace.Lines

/-! The fields of a line. Each one sets the key or the modifiers of the event and leaves the other
as it is, so that fields with different names may change places, and modifiers may be listed in any
order.
-/

namespace EscapeKey.Trace

/-- The words of a line in front of its comment. -/
def lineWords (line : List Char) : List (List Char) :=
  Text.words (Text.cut '#' line).1

def fieldName (field : List Char) : List Char :=
  (Text.cut '=' field).1

def keyField (spelling : List Char) : List Char :=
  ['k', 'e', 'y'] ++ '=' :: spelling

def modsField (list : List Char) : List Char :=
  ['m', 'o', 'd', 's'] ++ '=' :: list

/-- The field spells a key or lists modifiers, which the later event has instead. -/
inductive FieldSets (e : Event) : List Char → Event → Prop where
  | key {spelling k} (spelt : Key.read? spelling = some k)
    : FieldSets e (keyField spelling) { e with key := some k }
  | mods {list mods} (listed : Mods.read? list = some mods)
    : FieldSets e (modsField list) { e with mods }

/-- The fields are the same, or both list the same modifiers. -/
inductive FieldAlike : List Char → List Char → Prop where
  | same {field} : FieldAlike field field
  | mods {list other} (alike : Mods.ListedAlike list other)
    : FieldAlike (modsField list) (modsField other)

/-- The lines have the same time and the same action. The first one has at most one field for the
key and one for the modifiers, and the second one has the same fields, but in any order and with the
modifiers listed in any order and as often as one likes.
-/
inductive Rearranged (line other : List Char) : Prop where
  | fields {time action fields reordered others}
    (words : lineWords line = time :: action :: fields)
    (oneKey : (fields.map fieldName).count ['k', 'e', 'y'] ≤ 1)
    (oneMods : (fields.map fieldName).count ['m', 'o', 'd', 's'] ≤ 1)
    (order : fields.Perm reordered) (alike : reordered.Forall₂ FieldAlike others)
    (otherWords : lineWords other = time :: action :: others)

-----------------------------------------------------------------------------------------
-- One field
-----------------------------------------------------------------------------------------

variable {e a b later : Event} {f g field : List Char}

theorem fieldName_keyField (spelling : List Char)
    : fieldName (keyField spelling) = ['k', 'e', 'y'] := by
  rw [fieldName, keyField, Text.cut_append_cons (by decide)]

theorem fieldName_modsField (list : List Char)
    : fieldName (modsField list) = ['m', 'o', 'd', 's'] := by
  rw [fieldName, modsField, Text.cut_append_cons (by decide)]

/-- A field is read exactly if it sets the key or the modifiers. -/
theorem readField_eq_ok_iff : readField e field = .ok later ↔ FieldSets e field later := by
  constructor
  · intro read
    unfold readField at read
    split at read
    case h_1 spelling cut =>
      obtain rfl := Text.eq_append_of_cut_eq cut
      cases spelt : Key.read? spelling with
      | none => simp [spelt] at read
      | some k =>
          rw [spelt] at read
          exact Except.ok.inj read ▸ .key spelt
    case h_2 list cut =>
      obtain rfl := Text.eq_append_of_cut_eq cut
      cases listed : Mods.read? list with
      | none => simp [listed] at read
      | some mods =>
          rw [listed] at read
          exact Except.ok.inj read ▸ .mods listed
    case h_3 => contradiction
  · rintro (spelt | listed)
    · rw [readField, keyField, Text.cut_append_cons (by decide)]
      simp [spelt]
    · rw [readField, modsField, Text.cut_append_cons (by decide)]
      simp [listed]

theorem FieldSets.name_eq (sets : FieldSets e field later)
    : fieldName field = ['k', 'e', 'y'] ∨ fieldName field = ['m', 'o', 'd', 's'] := by
  cases sets with
  | key => exact .inl (fieldName_keyField _)
  | mods => exact .inr (fieldName_modsField _)

/-- Fields with different names set different parts of the event. -/
theorem FieldSets.swap (first : FieldSets e f a) (second : FieldSets a g b)
    (apart : fieldName f ≠ fieldName g)
    : ∃ c, FieldSets e g c ∧ FieldSets c f b := by
  cases first with
  | key spelt =>
      cases second with
      | key => exact absurd ((fieldName_keyField _).trans (fieldName_keyField _).symm) apart
      | mods listed => exact ⟨_, .mods listed, .key spelt⟩
  | mods listed =>
      cases second with
      | key spelt => exact ⟨_, .key spelt, .mods listed⟩
      | mods => exact absurd ((fieldName_modsField _).trans (fieldName_modsField _).symm) apart

theorem FieldAlike.readField_eq (alike : FieldAlike f g) (e : Event)
    : readField e f = readField e g := by
  cases alike with
  | same => rfl
  | @mods list other alike =>
      have read : Mods.read? other = some (.ofModifiers (Mods.listed list)) :=
        alike.read?_eq ▸ alike.1.read?_eq
      rw [readField_eq_ok_iff.mpr (.mods alike.1.read?_eq), readField_eq_ok_iff.mpr (.mods read)]

-----------------------------------------------------------------------------------------
-- All fields
-----------------------------------------------------------------------------------------

variable {fields others : List (List Char)}

/-- Fields that are read are fields for the key or the modifiers, by induction on the fields. -/
theorem fieldName_of_mem (read : fields.foldlM readField e = .ok later) (member : field ∈ fields)
    : fieldName field = ['k', 'e', 'y'] ∨ fieldName field = ['m', 'o', 'd', 's'] := by
  induction fields generalizing e with
  | nil => contradiction
  | cons first rest ih =>
      rw [List.foldlM_cons, Except.bind_eq_ok_iff] at read
      obtain ⟨next, set, read⟩ := read
      rcases List.mem_cons.mp member with rfl | member
      · exact (readField_eq_ok_iff.mp set).name_eq
      · exact ih read member

/-- Fields that are read have different names if there are not two for the key or two for the
modifiers.
-/
theorem nodup_fieldName (read : fields.foldlM readField e = .ok later)
    (oneKey : (fields.map fieldName).count ['k', 'e', 'y'] ≤ 1)
    (oneMods : (fields.map fieldName).count ['m', 'o', 'd', 's'] ≤ 1)
    : (fields.map fieldName).Nodup := by
  rw [List.nodup_iff_count]
  intro name
  by_cases used : name ∈ fields.map fieldName
  · obtain ⟨field, member, rfl⟩ := List.mem_map.mp used
    rcases fieldName_of_mem read member with key | mods
    · rwa [key]
    · rwa [mods]
  · rw [List.count_eq_zero_of_not_mem used]
    exact Nat.zero_le 1

/-- Fields with different names give the same event in every order, by induction on how they change
places.
-/
theorem foldlM_readField_perm (order : fields.Perm others) (apart : (fields.map fieldName).Nodup)
    (read : fields.foldlM readField e = .ok later)
    : others.foldlM readField e = .ok later := by
  induction order generalizing e with
  | nil => exact read
  | cons field _ ih =>
      rw [List.foldlM_cons, Except.bind_eq_ok_iff] at read ⊢
      obtain ⟨next, set, read⟩ := read
      exact ⟨next, set, ih (List.nodup_cons.mp apart).2 read⟩
  | swap f g rest =>
      simp only [List.foldlM_cons, Except.bind_eq_ok_iff] at read ⊢
      obtain ⟨a, first, b, second, read⟩ := read
      have different : fieldName g ≠ fieldName f := by
        rintro same
        simp [same] at apart
      obtain ⟨c, second, first⟩ :=
        (readField_eq_ok_iff.mp first).swap (readField_eq_ok_iff.mp second) different
      exact ⟨c, readField_eq_ok_iff.mpr second, b, readField_eq_ok_iff.mpr first, read⟩
  | trans first _ ih ih' => exact ih' ((first.map fieldName).nodup apart) (ih apart read)

theorem foldlM_readField_alike (alike : fields.Forall₂ FieldAlike others) (e : Event)
    : fields.foldlM readField e = others.foldlM readField e := by
  induction alike generalizing e with
  | nil => rfl
  | cons first _ ih => simp only [List.foldlM_cons, first.readField_eq, ih]

-----------------------------------------------------------------------------------------
-- Rearranged lines
-----------------------------------------------------------------------------------------

/-- A line gives an event if its time and action are read and then its fields. -/
theorem readWords_eq_some_iff {words : List (List Char)}
    : readWords words = .ok (some e)
      ↔ ∃ time action fields t a,
        words = time :: action :: fields
        ∧ Text.readUInt64? time = some t
        ∧ Action.read? action = some a
        ∧ fields.foldlM readField ⟨t, a, none, ∅⟩ = .ok e := by
  constructor
  · fun_cases readWords words with
    | case1 | case2 | case3 | case4 => exact nofun
    | case5 time t timeRead action fields a actionRead plain =>
        intro read
        obtain ⟨found, finished, same⟩ := Except.bind_eq_ok_iff.mp read
        obtain rfl : found = e := Option.some.inj (Except.ok.inj same)
        exact ⟨_, _, _, _, _, rfl, timeRead, actionRead, finished⟩
  · rintro ⟨time, action, fields, t, a, rfl, timeRead, actionRead, finished⟩
    simp only [readWords, timeRead, actionRead, finished]
    rfl

/-- A rearranged line gives the same event. -/
theorem Rearranged.readLine_eq {line other : List Char} (rearranged : Rearranged line other)
    (read : readLine line = .ok (some e))
    : readLine other = .ok (some e) := by
  obtain ⟨words, oneKey, oneMods, order, alike, otherWords⟩ := rearranged
  have gives : readWords (lineWords line) = .ok (some e) := read
  have goal : readWords (lineWords other) = .ok (some e) := by
    rw [words, readWords_eq_some_iff] at gives
    obtain ⟨time, action, fields, t, a, same, timeRead, actionRead, finished⟩ := gives
    obtain ⟨rfl, rfl, rfl⟩ : _ = time ∧ _ = action ∧ _ = fields := by simpa using same
    have apart := nodup_fieldName finished oneKey oneMods
    have kept := foldlM_readField_perm order apart finished
    rw [foldlM_readField_alike alike] at kept
    rw [otherWords, readWords_eq_some_iff]
    exact ⟨_, _, _, t, a, rfl, timeRead, actionRead, kept⟩
  exact goal

end EscapeKey.Trace
