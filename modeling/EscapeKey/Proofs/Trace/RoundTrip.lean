import EscapeKey.Proofs.Key.Names
import EscapeKey.Proofs.Mods.Labels
import EscapeKey.Proofs.Trace.Fields

/-! Traces read back as they are written. The text of an event is a line of words, each of which
reads as the part of the event that it stands for; only a key without a name does not read back.
What is read has names for its keys, so that writing it and reading again changes nothing.
-/

namespace EscapeKey

namespace Action

theorem read?_name (a : Action) : read? a.name.toList = some a := by
  cases a <;> decide

theorem isWord_name (a : Action) : Text.IsWord a.name.toList := by
  cases a <;> decide

end Action

namespace Trace

/-- The key of the event, if it has one, has a name. -/
def Event.IsNamed (e : Event) : Prop :=
  ∀ k ∈ e.key, k.Named

instance (e : Event) : Decidable e.IsNamed :=
  inferInstanceAs (Decidable (∀ k ∈ e.key, k.Named))

/-- The events, one to a line. -/
def text (events : List Event) : String :=
  "\n".intercalate (events.map Event.text)

-----------------------------------------------------------------------------------------
-- The words of an event
-----------------------------------------------------------------------------------------

def keyWord (k : Key) : List Char :=
  ['k', 'e', 'y'] ++ '=' :: k.name.toList

def modsWord (m : Mods) : List Char :=
  ['m', 'o', 'd', 's'] ++ '=' :: m.text.toList

/-- The words for the key and the modifiers, so far as there are any. -/
def Event.fields (e : Event) : List (List Char) :=
  e.key.toList.map keyWord ++ if e.mods.isEmpty then [] else [modsWord e.mods]

def Event.words (e : Event) : List (List Char) :=
  Nat.toDigits 10 e.time.toNat :: e.action.name.toList :: e.fields

theorem Event.isWord_of_mem_words {e : Event} {word : List Char} (listed : word ∈ e.words)
    : Text.IsWord word := by
  have keyPrefix : Text.IsWord ['k', 'e', 'y', '='] := by decide
  have modsPrefix : Text.IsWord ['m', 'o', 'd', 's', '='] := by decide
  simp only [words, fields, List.mem_cons, List.mem_append, List.mem_map] at listed
  rcases listed with rfl | rfl | ⟨k, _, rfl⟩ | listed
  · exact Text.isWord_toDigits _
  · exact e.action.isWord_name
  · exact keyPrefix.append k.isWord_name
  · split at listed
    · contradiction
    · rw [List.mem_singleton.mp listed]
      exact modsPrefix.append e.mods.isWord_text

/-- The text of an event is its words with spaces between them. -/
theorem Event.toList_text (e : Event) : e.text.toList = [' '].intercalate e.words := by
  obtain ⟨time, action, key, mods⟩ := e
  cases key with
  | none =>
      by_cases free : mods.isEmpty = true
      · simp [text, words, fields, free]
      · simp [text, words, fields, free, modsWord]
  | some k =>
      by_cases free : mods.isEmpty = true
      · simp [text, words, fields, free, keyWord]
      · simp [text, words, fields, free, keyWord, modsWord]

/-- The line of an event is read word by word. -/
theorem Event.readLine_text (e : Event) : readLine e.text.toList = readWords e.words := by
  have uncommented : '#' ∉ [' '].intercalate e.words := by
    intro member
    rcases Text.mem_intercalate member with space | ⟨word, listed, inside⟩
    · contradiction
    · exact (e.isWord_of_mem_words listed).not_comment inside
  rw [readLine, e.toList_text, Text.cut_of_not_mem uncommented,
    Text.words_intercalate fun word => e.isWord_of_mem_words]

-----------------------------------------------------------------------------------------
-- Reading an event back
-----------------------------------------------------------------------------------------

theorem readField_keyWord (e : Event) {k : Key} (named : k.Named)
    : readField e (keyWord k) = .ok { e with key := some k } :=
  readField_eq_ok_iff.mpr (.key named.read?_name)

theorem readField_keyWord_unknown (e : Event) {k : Key} (unnamed : ¬ k.Named)
    : readField e (keyWord k) = .error (.unknownKey "UNKNOWN") := by
  rw [readField, keyWord, Text.cut_append_cons (by decide), Key.name_of_not_named unnamed]
  simp only [Key.read?_unknown, String.ofList_toList]

theorem readField_modsWord (e : Event) (m : Mods)
    : readField e (modsWord m) = .ok { e with mods := m } :=
  readField_eq_ok_iff.mpr (.mods m.read?_text)

/-- The event without what its fields say. -/
def Event.plain (e : Event) : Event :=
  { e with key := none, mods := ∅ }

theorem Event.readWords_words (e : Event)
    : readWords e.words = some <$> e.fields.foldlM readField e.plain := by
  simp only [words, readWords, Text.readUInt64?_toDigits, e.action.read?_name]
  rfl

/-- The field of the key, if there is one, restores the key. -/
theorem Event.IsNamed.foldlM_keyWord {e : Event} (named : e.IsNamed)
    : (e.key.toList.map keyWord).foldlM readField e.plain = .ok { e with mods := ∅ } := by
  obtain ⟨time, action, key, mods⟩ := e
  cases key with
  | none => rfl
  | some k =>
      rw [Option.toList_some, List.map_singleton, List.foldlM_cons,
        readField_keyWord _ (named k rfl)]
      rfl

/-- The field of the modifiers, which is there unless none are held, restores them. -/
theorem Event.foldlM_modsWord (e : Event)
    : (if e.mods.isEmpty then [] else [modsWord e.mods]).foldlM readField { e with mods := ∅ }
      = .ok e := by
  obtain ⟨time, action, key, mods⟩ := e
  cases free : mods.isEmpty with
  | true =>
      rw [Mods.eq_empty free]
      rfl
  | false =>
      rw [if_neg Bool.false_ne_true, List.foldlM_cons, readField_modsWord]
      rfl

/-- An event reads back from its line if its key has a name. -/
theorem Event.IsNamed.readLine_text {e : Event} (named : e.IsNamed)
    : readLine e.text.toList = .ok (some e) := by
  have fields : e.fields.foldlM readField e.plain = .ok e := by
    rw [Event.fields, List.foldlM_append, named.foldlM_keyWord]
    exact e.foldlM_modsWord
  rw [Event.readLine_text, e.readWords_words, fields]
  rfl

/-- An event whose key has no name does not read back. -/
theorem Event.readLine_text_of_not_named {e : Event} (unnamed : ¬ e.IsNamed)
    : readLine e.text.toList = .error (.unknownKey "UNKNOWN") := by
  obtain ⟨time, action, key, mods⟩ := e
  cases key with
  | none => exact absurd nofun unnamed
  | some k =>
      have unknown : ¬ k.Named := fun named => unnamed fun _ same => Option.some.inj same ▸ named
      -- the field of the key stands first, so that its fault is found whatever is held
      rw [Event.readLine_text, Event.readWords_words, Event.fields, Option.toList_some,
        List.map_singleton, List.singleton_append, List.foldlM_cons,
        readField_keyWord_unknown _ unknown]
      rfl

-----------------------------------------------------------------------------------------
-- What is read is named
-----------------------------------------------------------------------------------------

/-- A field leaves the key named, since it only sets keys that it has read. -/
theorem Event.IsNamed.readField {e later : Event} {field : List Char} (named : e.IsNamed)
    (read : readField e field = .ok later)
    : later.IsNamed := by
  cases readField_eq_ok_iff.mp read with
  | key spelt =>
      intro other same
      obtain rfl := Option.some.inj same
      exact Key.named_of_read? spelt
  | mods => exact named

theorem Event.IsNamed.foldlM_readField {e later : Event} {fields : List (List Char)}
    (named : e.IsNamed) (read : fields.foldlM Trace.readField e = .ok later)
    : later.IsNamed := by
  induction fields generalizing e with
  | nil =>
      obtain rfl := Except.ok.inj read
      exact named
  | cons field rest ih =>
      rw [List.foldlM_cons, Except.bind_eq_ok_iff] at read
      obtain ⟨next, first, later⟩ := read
      exact ih (named.readField first) later

theorem isNamed_of_readWords {words : List (List Char)} {e : Event}
    (read : readWords words = .ok (some e))
    : e.IsNamed := by
  obtain ⟨_, _, fields, time, action, _, _, _, finished⟩ := readWords_eq_some_iff.mp read
  have plainNamed : (⟨time, action, none, ∅⟩ : Event).IsNamed := nofun
  exact plainNamed.foldlM_readField finished

theorem LinesGive.isNamed {previous : Option UInt64} {lines : List (List Char)}
    {events : List Event} (gives : LinesGive previous lines events)
    : ∀ e ∈ events, e.IsNamed := by
  induction gives with
  | nil => exact nofun
  | blank _ _ ih => exact ih
  | event read _ _ ih => exact List.forall_mem_cons.mpr ⟨isNamed_of_readWords read, ih⟩

-----------------------------------------------------------------------------------------
-- The lines of a trace
-----------------------------------------------------------------------------------------

theorem Event.newline_not_mem_text (e : Event) : '\n' ∉ e.text.toList := by
  intro member
  rw [e.toList_text] at member
  rcases Text.mem_intercalate member with space | ⟨word, listed, inside⟩
  · contradiction
  · have visible := (e.isWord_of_mem_words listed).not_blank inside
    contradiction

theorem parse_intercalate {lines : List String} (unbroken : ∀ line ∈ lines, '\n' ∉ line.toList)
    : parse ("\n".intercalate lines) = readLines 1 none (lines.map String.toList) := by
  cases lines with
  | nil => decide
  | cons first rest =>
      have split : (['\n'].intercalate ((first :: rest).map String.toList)).splitOn '\n'
          = (first :: rest).map String.toList := by
        apply List.splitOn_intercalate
        · intro line listed
          obtain ⟨written, member, rfl⟩ := List.mem_map.mp listed
          exact unbroken written member
        · simp
      have joint : "\n".toList = ['\n'] := rfl
      rw [parse, read, String.toList_intercalate, joint, split]

/-- A line feed at the end of a trace is of no account. -/
theorem parse_append_newline (s : String) : parse (s ++ "\n") = parse s := by
  have split : (s ++ "\n").toList.splitOn '\n' = s.toList.splitOn '\n' ++ [[]] := by
    rw [String.toList_append]
    exact List.splitOn_append_cons_self s.toList []
  have blank : readLine [] = .ok none := rfl
  rw [parse, read, split, readLines_append_blank blank]
  rfl

/-- The lines of named events whose times never decrease give the events, by induction. -/
theorem linesGive_texts {previous : Option UInt64} {events : List Event}
    (ordered : Ordered events) (named : ∀ e ∈ events, e.IsNamed)
    (follows : ∀ e ∈ events, e.Follows previous)
    : LinesGive previous (events.map (·.text.toList)) events := by
  induction events generalizing previous with
  | nil => exact .nil
  | cons e rest ih =>
      obtain ⟨passed, later⟩ := List.pairwise_cons.mp ordered
      obtain ⟨firstNamed, restNamed⟩ := List.forall_mem_cons.mp named
      have behind : ∀ x ∈ rest, x.Follows (some e.time) := fun x listed =>
        Event.follows_some.mpr (passed x listed)
      exact .event firstNamed.readLine_text (follows e List.mem_cons_self)
        (ih later restNamed behind)

theorem parse_text_of_named {events : List Event} (ordered : Ordered events)
    (named : ∀ e ∈ events, e.IsNamed)
    : parse (text events) = .ok events := by
  have unbroken : ∀ line ∈ events.map Event.text, '\n' ∉ line.toList :=
    List.forall_mem_map.mpr fun e _ => e.newline_not_mem_text
  rw [text, parse_intercalate unbroken, List.map_map]
  exact readLines_eq_ok_iff.mpr (linesGive_texts ordered named fun e _ => e.follows_none)

/-- Whatever is read is in order and named. -/
theorem ordered_and_named_of_parse {s : String} {events : List Event}
    (read : parse s = .ok events)
    : Ordered events ∧ ∀ e ∈ events, e.IsNamed :=
  have gives := readLines_eq_ok_iff.mp read
  ⟨gives.ordered.1, gives.isNamed⟩

/-- Behind lines that are read, the line of an event whose key has no name is at fault. -/
theorem parse_unnamed {before after : List String} {earlier : List Event} {e : Event}
    (unbroken : ∀ line ∈ before ++ after, '\n' ∉ line.toList)
    (read : parse ("\n".intercalate before) = .ok earlier) (unnamed : ¬ e.IsNamed)
    : parse ("\n".intercalate (before ++ e.text :: after))
      = .error ⟨before.length + 1, .malformed (.unknownKey "UNKNOWN")⟩ := by
  obtain ⟨unbrokenBefore, unbrokenAfter⟩ := List.forall_mem_append.mp unbroken
  have unbrokenAll : ∀ line ∈ before ++ e.text :: after, '\n' ∉ line.toList :=
    List.forall_mem_append.mpr
      ⟨unbrokenBefore, List.forall_mem_cons.mpr ⟨e.newline_not_mem_text, unbrokenAfter⟩⟩
  rw [parse_intercalate unbrokenBefore, readLines_eq_ok_iff] at read
  have faulty : IsFaulty (latest none earlier) e.text.toList (.malformed (.unknownKey "UNKNOWN")) :=
    .malformed (Event.readLine_text_of_not_named unnamed)
  rw [parse_intercalate unbrokenAll, List.map_append, List.map_cons,
    read.readLines_isFaulty faulty, List.length_map, Nat.add_comm 1]

/-- Traces round-trip, with a line feed at the end or without. The events that read back from
their text are those whose keys have names and whose times never decrease, so that events which
have been read from any other text read back as well. The line of an event whose key has no name
is at fault wherever it stands.
-/
theorem parse_text
    : (∀ events, ∀ ending ∈ ["", "\n"],
        parse (text events ++ ending) = .ok events
          ↔ Ordered events ∧ ∀ e ∈ events, e.IsNamed)
      ∧ (∀ s events, parse s = .ok events →
        ∀ ending ∈ ["", "\n"], parse (text events ++ ending) = .ok events)
      ∧ ∀ before after earlier (e : Event), (∀ line ∈ before ++ after, '\n' ∉ line.toList) →
        parse ("\n".intercalate before) = .ok earlier → ¬ e.IsNamed →
        parse ("\n".intercalate (before ++ e.text :: after))
          = .error ⟨before.length + 1, .malformed (.unknownKey "UNKNOWN")⟩ := by
  have ended : ∀ s, ∀ ending ∈ ["", "\n"], parse (s ++ ending) = parse s := by
    intro s ending listed
    simp only [List.mem_cons, List.not_mem_nil, or_false] at listed
    rcases listed with rfl | rfl
    · rw [String.append_empty]
    · exact parse_append_newline s
  refine ⟨?written, ?normal, ?unnamed⟩
  case written =>
    intro events ending listed
    rw [ended _ _ listed]
    exact ⟨ordered_and_named_of_parse, fun facts => parse_text_of_named facts.1 facts.2⟩
  case normal =>
    intro s events read ending listed
    obtain ⟨ordered, named⟩ := ordered_and_named_of_parse read
    rw [ended _ _ listed]
    exact parse_text_of_named ordered named
  case unnamed =>
    intro before after earlier e unbroken read unnamed
    exact parse_unnamed unbroken read unnamed

/-- A key with a second name and modifiers on both sides, written and read again; the same events
in another spelling, with comments; and a key without a name on the second line.
-/
theorem parse_text_aliases
    : let events : List Event :=
        [⟨5, .press, some .grave, ⟨0x82#8⟩⟩, ⟨5, .autoRepeat, some .grave, ∅⟩,
          ⟨200, .release, none, ∅⟩]
      let spelled :=
        "# held\n+05 Down  mods=LShift+RSuper key=grv\n\n5 REPEAT key=backtick#\n200 up"
      let unnamed : Event := ⟨7, .press, some ⟨999⟩, ∅⟩
      text events = "5 press key=GRAVE mods=LShift+RCmd\n5 repeat key=GRAVE\n200 release"
      ∧ Ordered events ∧ (∀ e ∈ events, e.IsNamed)
      ∧ parse (text events ++ "\n") = .ok events
      ∧ parse spelled = .ok events ∧ parse (text events) = .ok events
      ∧ ¬ unnamed.IsNamed ∧ unnamed.text = "7 press key=UNKNOWN"
      ∧ parse ("\n".intercalate ["8 up", unnamed.text, "10"])
        = .error ⟨2, .malformed (.unknownKey "UNKNOWN")⟩ := by
  intro events spelled unnamed
  have ordered : Ordered events := by decide
  have named : ∀ e ∈ events, e.IsNamed := by decide
  have read : parse spelled = .ok events := by decide +kernel
  have missing : ¬ unnamed.IsNamed := by decide
  have before : parse ("\n".intercalate ["8 up"]) = .ok [⟨8, .release, none, ∅⟩] := by
    decide +kernel
  refine ⟨by decide +kernel, ordered, named, ?_, read, ?_, missing, by decide +kernel, ?_⟩
  · exact (parse_text.1 events "\n" (by decide)).mpr ⟨ordered, named⟩
  · have reread := parse_text.2.1 spelled events read "" (by decide)
    rwa [String.append_empty] at reread
  · exact parse_text.2.2 ["8 up"] ["10"] _ unnamed (by decide) before missing

end Trace

end EscapeKey
