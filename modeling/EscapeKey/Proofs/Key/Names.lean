import EscapeKey.Key.Names
import EscapeKey.Proofs.Text.Words

/-! Key names. A named key reads back from its name, whatever is read is named, and no key reads
from the placeholder for a missing name.
-/

namespace EscapeKey

namespace Text

/-- A text of characters that are their own upper-case forms is its own, by induction. -/
theorem upper?_eq_self {s : List Char} (upper : ∀ c ∈ s, upperChar? c = some [c])
    : upper? s = some s := by
  have each : s.mapM upperChar? = some (s.map ([·])) := by
    induction s with
    | nil => rfl
    | cons c rest ih =>
        have later := ih fun x member => upper x (List.mem_cons_of_mem c member)
        rw [List.mapM_cons, upper c List.mem_cons_self, later]
        rfl
  rw [upper?, each, Option.map_some, ← List.flatMap_def, List.flatMap_singleton']

end Text

namespace Key

/-- No name in the table belongs to two codes. -/
theorem find?_name : ∀ entry ∈ names, names.find? (·.1 == entry.1) = some entry := by
  decide +kernel

/-- Names are words in upper case. -/
theorem names_plain
    : ∀ entry ∈ names,
        Text.IsWord entry.1.toList
        ∧ entry.1.toList.all (fun c => Text.upperChar? c == some [c]) = true := by
  decide +kernel

/-- A name in the table reads as the key of its code. -/
theorem read?_of_mem_names {entry : String × UInt16} (listed : entry ∈ names)
    : read? entry.1.toList = some ⟨entry.2⟩ := by
  obtain ⟨word, upper⟩ := names_plain entry listed
  have same : Text.upper? entry.1.toList = some entry.1.toList :=
    Text.upper?_eq_self fun c member => beq_iff_eq.mp (List.all_eq_true.mp upper c member)
  rw [read?, word.trim_eq, same, Option.bind_eq_bind, Option.bind_some, String.ofList_toList,
    find?_name entry listed]
  rfl

/-- The name of a named key is the first one that the table lists for its code. -/
theorem Named.exists_name {k : Key} (named : k.Named)
    : ∃ entry ∈ names, k.name = entry.1 ∧ k = ⟨entry.2⟩ := by
  obtain ⟨other, listed, code⟩ := named
  cases found : names.find? (·.2 == k.code) with
  | none =>
      have absent := List.find?_eq_none.mp found other listed
      exact absurd (beq_iff_eq.mpr code) absent
  | some entry =>
      have same : entry.2 = k.code := by simpa using List.find?_some found
      refine ⟨entry, List.mem_of_find?_eq_some found, ?_, ?_⟩
      · simp [name, name?, found]
      · rw [same]

/-- A named key reads back from its name. -/
theorem Named.read?_name {k : Key} (named : k.Named) : read? k.name.toList = some k := by
  obtain ⟨entry, listed, name, rfl⟩ := named.exists_name
  rw [name]
  exact read?_of_mem_names listed

theorem name_of_not_named {k : Key} (unnamed : ¬ k.Named) : k.name = "UNKNOWN" := by
  have none : names.find? (·.2 == k.code) = none := by
    rw [List.find?_eq_none]
    intro entry listed code
    exact unnamed ⟨entry, listed, beq_iff_eq.mp code⟩
  simp [name, name?, none]

theorem read?_unknown : read? "UNKNOWN".toList = none := by
  decide +kernel

/-- The name of a key is a word, also where it is the placeholder. -/
theorem isWord_name (k : Key) : Text.IsWord k.name.toList := by
  by_cases named : k.Named
  case pos =>
    obtain ⟨entry, listed, name, _⟩ := named.exists_name
    rw [name]
    exact (names_plain entry listed).1
  case neg =>
    rw [name_of_not_named named]
    decide

/-- Whatever reads as a key reads as a named one. -/
theorem named_of_read? {s : List Char} {k : Key} (read : read? s = some k) : k.Named := by
  simp only [read?, Option.bind_eq_bind, Option.bind_eq_some_iff] at read
  obtain ⟨_, _, entry, found, same⟩ := read
  cases same
  exact ⟨entry, List.mem_of_find?_eq_some found, rfl⟩

end Key

end EscapeKey
