import SessionGate.Proofs.Broker.Names

/-! What written patterns of names mean, and that the patterns of a user's permissions mean the
user's own names and no others. -/

namespace SessionGate

/-- A mark of a written pattern: a character that stands for itself, or a sign with a meaning of its
own. -/
inductive PatternMark where
  | literal (c : Char)
  | start
  | finish
  | opening
  | bar
  | closing

namespace PatternMark

/-- The mark that a character is by itself. A backslash is none, and patterns with repetitions,
classes of characters or wild cards are not read. -/
def ofChar? : Char → Option PatternMark
  | '^' => some .start
  | '$' => some .finish
  | '(' => some .opening
  | '|' => some .bar
  | ')' => some .closing
  | '\\' | '.' | '[' | '*' | '+' | '?' | '\x7b' => none
  | c => some (.literal c)

/-- The marks of a written pattern. A backslash takes the meaning from a character that is neither a
letter nor a digit. -/
def ofChars? : List Char → Option (List PatternMark)
  | [] => some []
  | '\\' :: c :: rest => if c.isAlphanum then none else (ofChars? rest).map (.literal c :: ·)
  | c :: rest => (ofChar? c).bind fun mark => (ofChars? rest).map (mark :: ·)

end PatternMark

/-- A pattern of stretches of a text. -/
inductive Pattern where
  | nothing
  | char (c : Char)
  | start
  | finish
  | both (first second : Pattern)
  | either (first second : Pattern)

namespace Pattern

/-- A pattern matches a stretch of a text, given what stands before and behind the stretch. -/
def Matches : Pattern → List Char → List Char → List Char → Prop
  | nothing, _, inside, _ => inside = []
  | char c, _, inside, _ => inside = [c]
  | start, before, inside, _ => inside = [] ∧ before = []
  -- A line break at the very end does not count as text.
  | finish, _, inside, behind => inside = [] ∧ (behind = [] ∨ behind = ['\n'])
  | both first second, before, inside, behind =>
    ∃ early late, inside = early ++ late ∧ first.Matches before early (late ++ behind) ∧
      second.Matches (before ++ early) late behind
  | either first second, before, inside, behind =>
    first.Matches before inside behind ∨ second.Matches before inside behind

/-- A part of a pattern that is being read: the alternatives before the last bar, and what has been
read of the last one. -/
structure Group where
  earlier : Option Pattern
  latest : Pattern

namespace Group

/-- A part of which nothing has been read. -/
def fresh : Group := ⟨none, nothing⟩

/-- One more piece of the last alternative. -/
def add (group : Group) (piece : Pattern) : Group := ⟨group.earlier, .both group.latest piece⟩

/-- All that has been read of the part. -/
def whole : Group → Pattern
  | ⟨none, latest⟩ => latest
  | ⟨some earlier, latest⟩ => .either earlier latest

/-- A bar ends an alternative, and another one begins. -/
def next (group : Group) : Group := ⟨some group.whole, nothing⟩

end Group

/-- Reads marks into the innermost part that is open, with the parts around it. -/
def read : List PatternMark → Group → List Group → Option Pattern
  | [], group, [] => some group.whole
  -- Every parenthesis has to be closed.
  | [], _, _ :: _ => none
  | .literal c :: rest, group, around => read rest (group.add (char c)) around
  | .start :: rest, group, around => read rest (group.add start) around
  | .finish :: rest, group, around => read rest (group.add finish) around
  | .bar :: rest, group, around => read rest group.next around
  | .opening :: rest, group, around => read rest .fresh (group :: around)
  | .closing :: rest, group, outer :: around => read rest (outer.add group.whole) around
  | .closing :: _, _, [] => none

/-- The pattern of a text. -/
def ofText? (text : String) : Option Pattern :=
  (PatternMark.ofChars? text.toList).bind fun marks => read marks .fresh []

/-- A pattern is found in a name when it matches some stretch of it. -/
def Found (pattern : Pattern) (name : String) : Prop :=
  ∃ before inside behind, name.toList = before ++ inside ++ behind ∧
    pattern.Matches before inside behind

/-- A written pattern permits the names in which it is found. -/
def Permits (text name : String) : Prop := ∃ pattern, ofText? text = some pattern ∧ pattern.Found name

/-- A pattern followed by characters that stand for themselves. -/
def spell (pattern : Pattern) (chars : List Char) : Pattern :=
  chars.foldl (fun pattern c => both pattern (char c)) pattern

/-- Characters that stand for themselves match themselves, behind what the pattern before them
matches. -/
theorem matches_spell {pattern : Pattern} {chars before inside behind : List Char} :
    (pattern.spell chars).Matches before inside behind ↔
      ∃ early, inside = early ++ chars ∧ pattern.Matches before early (chars ++ behind) := by
  -- The pattern before the characters grows by one of them at each step.
  induction chars generalizing pattern with
  | nil =>
    simp only [spell, List.foldl_nil, List.append_nil, List.nil_append]
    constructor
    · intro found
      -- Nothing is spelt, so nothing is taken from what is inside.
      exact ⟨inside, rfl, found⟩
    · intro found
      obtain ⟨early, rfl, found⟩ := found
      exact found
  | cons c rest ih =>
    rw [spell, List.foldl_cons, ← spell, ih]
    constructor
    · intro found
      -- The character is the last one that the longer pattern takes, and belongs to the spelt ones.
      obtain ⟨_, rfl, early, late, rfl, first, rfl⟩ := found
      exact ⟨early, by simp, by simpa using first⟩
    · intro found
      obtain ⟨early, rfl, first⟩ := found
      exact ⟨early ++ [c], by simp, early, [c], rfl, by simpa using first, rfl⟩

/-- Literal marks are read as characters that stand for themselves. -/
theorem read_literals (chars : List Char) (rest : List PatternMark) (group : Group)
    (around : List Group) :
    read (chars.map .literal ++ rest) group around =
      read rest ⟨group.earlier, group.latest.spell chars⟩ around := by
  -- The induction is on the characters, and each is added to the latest branch.
  induction chars generalizing group with
  | nil => rfl
  | cons c chars ih => exact ih (group.add (char c))

end Pattern

namespace PatternMark

open BrokerNames

/-- A character without a meaning of its own stands for itself. -/
theorem ofChar?_literal {c : Char} (plain : isOperator c = false) : ofChar? c = some (.literal c) := by
  -- The operators are told apart one by one, and the character is none of them.
  unfold ofChar?
  split
  case h_13 => rfl
  all_goals exact absurd plain (by decide)

/-- An escaped text is read as itself. -/
theorem ofChars?_escape (chars rest : List Char) :
    ofChars? (chars.flatMap escapeChar ++ rest) =
      (ofChars? rest).map (chars.map .literal ++ ·) := by
  induction chars with
  -- Characters come one at a time, and each is a sign, which is escaped, or stands for itself.
  | nil => simp
  | cons c chars ih =>
    rw [List.flatMap_cons, escapeChar]
    cases operator : isOperator c with
    | true =>
      -- No sign with a meaning of its own is a letter or a digit.
      have sign : c.isAlphanum = false := by
        have all : (['\\', '.', '+', '*', '?', '(', ')', '|', '[', ']', Char.ofNat 0x7B,
            Char.ofNat 0x7D, '^', '$'].all fun sign => !sign.isAlphanum) = true := by decide
        have signs := List.all_eq_true.mp all c (List.contains_iff_mem.mp operator)
        simpa using signs
      simp [ofChars?, sign, ih, Function.comp_def]
    | false =>
      -- What is no sign is no backslash, so it does not begin an escape.
      have plain : c ≠ '\\' := by
        intro same
        subst same
        exact absurd operator (by decide)
      simp [ofChars?, plain, ofChar?_literal operator, ih, Function.comp_def]

end PatternMark

namespace Pattern

open BrokerNames

variable {before inside behind : List Char}

/-- What is read behind the start of a text stands at its start. -/
theorem matches_start : (both nothing start).Matches before inside behind ↔
    inside = [] ∧ before = [] := by
  -- The start is only found where nothing stands before it.
  constructor
  · intro found
    obtain ⟨early, late, rfl, rfl, rfl, first⟩ := found
    exact ⟨rfl, by simpa using first⟩
  · intro found
    obtain ⟨rfl, rfl⟩ := found
    exact ⟨[], [], rfl, rfl, rfl, rfl⟩

/-- A text at the start of a name that must reach to its end is the name, but for a line break. -/
theorem found_finish {pattern : Pattern} {own : List Char → Prop} {name : String}
    (exact : ∀ before inside behind,
      pattern.Matches before inside behind ↔ before = [] ∧ own inside) :
    (both pattern finish).Found name ↔
      ∃ text, own text ∧ (name.toList = text ∨ name.toList = text ++ ['\n']) := by
  constructor
  · intro found
    -- Nothing but a line break may stand behind the text.
    obtain ⟨before, _, behind, whole, text, _, rfl, first, rfl, last⟩ := found
    obtain ⟨rfl, own⟩ := (exact _ _ _).mp first
    refine ⟨text, own, ?_⟩
    rcases last with rfl | rfl
    · exact Or.inl (by simpa using whole)
    · exact Or.inr (by simpa using whole)
  · intro found
    -- The text stands at the start, and behind it there is nothing or one line break.
    obtain ⟨text, own, whole | whole⟩ := found
    · exact ⟨[], text, [], by simpa using whole, text, [], by simp, (exact _ _ _).mpr ⟨rfl, own⟩,
        rfl, Or.inl rfl⟩
    · exact ⟨[], text, ['\n'], by simpa using whole, text, [], by simp,
        (exact _ _ _).mpr ⟨rfl, own⟩, rfl, Or.inr rfl⟩

/-- What the pattern of a user's reading permissions is read as. -/
theorem ofText?_readPattern (user : UserId) : ofText? (readPattern user) =
    some (both ((both nothing start).spell (dispatcherQueue user).toList) finish) := by
  -- The signs at both ends keep their meaning, and all between them stands for itself.
  have marks : PatternMark.ofChars? (readPattern user).toList =
      some (.start :: ((dispatcherQueue user).toList.map .literal ++ [.finish])) := by
    simp [readPattern, escapePattern, PatternMark.ofChars?, PatternMark.ofChar?,
      PatternMark.ofChars?_escape]
  rw [ofText?, marks, Option.bind_some, read, read_literals]
  rfl

/-- What the pattern of a user's writing permissions is read as. -/
theorem ofText?_writePattern (user : UserId) : ofText? (writePattern user) =
    some (both (both (both nothing start)
      (either (nothing.spell (outputsQueue user).toList) (nothing.spell defaultExchange.toList)))
      finish) := by
  -- The signs around the two names keep their meaning, and the bar between them, but none within.
  have marks : PatternMark.ofChars? (writePattern user).toList =
      some (.start :: .opening :: ((outputsQueue user).toList.map .literal ++
        .bar :: (defaultExchange.toList.map .literal ++ [.closing, .finish]))) := by
    simp [writePattern, escapePattern, PatternMark.ofChars?, PatternMark.ofChar?,
      PatternMark.ofChars?_escape]
  rw [ofText?, marks, Option.bind_some, read, read, read_literals, read, read_literals]
  rfl

/-- A user may read from the user's dispatcher queue alone; a line break behind it is not seen. -/
theorem permits_readPattern {user : UserId} {name : String} :
    Permits (readPattern user) name ↔
      name = dispatcherQueue user ∨ name.toList = (dispatcherQueue user).toList ++ ['\n'] := by
  -- The spelt characters stand at the start, and nothing but a line break may stand behind the end.
  have exact : ∀ before inside behind,
      ((both nothing start).spell (dispatcherQueue user).toList).Matches before inside behind ↔
        before = [] ∧ inside = (dispatcherQueue user).toList := by
    intro before inside behind
    rw [matches_spell]
    constructor
    · -- The first part of the pattern matches nothing, and only at the start.
      intro found
      obtain ⟨early, rfl, first⟩ := found
      obtain ⟨rfl, rfl⟩ := matches_start.mp first
      exact ⟨rfl, rfl⟩
    · intro found
      obtain ⟨rfl, rfl⟩ := found
      exact ⟨[], rfl, matches_start.mpr ⟨rfl, rfl⟩⟩
  rw [Permits, ofText?_readPattern]
  simp only [Option.some.injEq, exists_eq_left', found_finish exact, exists_eq_left,
    String.toList_inj]

/-- A user may write to the user's outputs queue or to the default exchange alone; a line break
behind either of them is not seen. -/
theorem permits_writePattern {user : UserId} {name : String} :
    Permits (writePattern user) name ↔
      (name = outputsQueue user ∨ name.toList = (outputsQueue user).toList ++ ['\n']) ∨
        (name = defaultExchange ∨ name.toList = defaultExchange.toList ++ ['\n']) := by
  -- Spelt characters stand for themselves at any place.
  have literal : ∀ chars before inside behind,
      (nothing.spell chars).Matches before inside behind ↔ inside = chars := by
    intro chars before inside behind
    simp [matches_spell, Matches]
  have exact : ∀ before inside behind, (both (both nothing start)
      (either (nothing.spell (outputsQueue user).toList)
        (nothing.spell defaultExchange.toList))).Matches before inside behind ↔
        before = [] ∧ (inside = (outputsQueue user).toList ∨ inside = defaultExchange.toList) := by
    intro before inside behind
    constructor
    · intro found
      -- The parentheses put both names behind the start, and in front of the end.
      obtain ⟨early, late, rfl, first, choice⟩ := found
      obtain ⟨rfl, rfl⟩ := matches_start.mp first
      exact ⟨rfl, choice.imp (literal _ _ _ _).mp (literal _ _ _ _).mp⟩
    · intro found
      obtain ⟨rfl, choice⟩ := found
      exact ⟨[], inside, rfl, matches_start.mpr ⟨rfl, rfl⟩,
        choice.imp (literal _ _ _ _).mpr (literal _ _ _ _).mpr⟩
  rw [Permits, ofText?_writePattern]
  -- Both choices are followed by the same end.
  simp only [Option.some.injEq, exists_eq_left', found_finish exact, or_and_right, exists_or,
    exists_eq_left, String.toList_inj]

end Pattern

namespace BrokerNames

open Pattern

/-- A user's patterns permit the user to read from the dispatcher queue and to write to the outputs
queue and the default exchange, and to use nothing else: no queue of another user in particular. -/
theorem patterns_permit_own_names (user : UserId) :
    (∀ name : String, '\n' ∉ name.toList →
      (Permits (readPattern user) name ↔ name = dispatcherQueue user) ∧
      (Permits (writePattern user) name ↔ name = outputsQueue user ∨ name = defaultExchange)) ∧
    ∀ other : UserId, other ≠ user → ∀ queue ∈ queues other,
      ¬ Permits (readPattern user) queue ∧ ¬ Permits (writePattern user) queue := by
  have exact : ∀ name : String, '\n' ∉ name.toList →
      (Permits (readPattern user) name ↔ name = dispatcherQueue user) ∧
      (Permits (writePattern user) name ↔ name = outputsQueue user ∨ name = defaultExchange) := by
    intro name plain
    -- A name with a line break behind it is not without line breaks.
    have broken : ∀ chars, name.toList ≠ chars ++ ['\n'] := by
      intro chars same
      exact plain (by simp [same])
    simp [permits_readPattern, permits_writePattern, broken]
  refine ⟨exact, fun other different queue listed => ?_⟩
  obtain ⟨reads, writes⟩ := exact queue (queue_unbroken listed)
  rw [reads, writes]
  -- A queue that both users have would make them the same.
  have foreign : queue ∉ queues user := fun own => different (queues_apart listed own)
  refine ⟨fun same => ?_, fun same => ?_⟩
  · exact foreign (by simp [queues, same])
  · rcases same with same | same
    · exact foreign (by simp [queues, same])
    · exact queue_ne_defaultExchange listed same

/-- The user whose text is `a.b|c$` reads from one queue only, and another user, whose name the
first user's would match if it stood in a pattern as it is, keeps the queues to itself. -/
theorem patterns_with_operators :
    let user : UserId := ⟨"a.b|c$", by decide⟩
    let other : UserId := ⟨"a-b", by decide⟩
    Permits (readPattern user) "a.b|c$_dispatcher_queue" ∧
      Permits (writePattern user) "amq.default" ∧
      ¬ Permits (readPattern user) "a-b_dispatcher_queue" ∧
      ¬ Permits (writePattern user) "a-b_outputs_cal_queue" ∧ other ≠ user := by
  intro user other
  -- The names are decided by the general statement, which treats operators in a user's text as any
  -- character.
  have different : other ≠ user := by decide
  obtain ⟨own, others⟩ := patterns_permit_own_names user
  refine ⟨(own _ (by decide)).1.mpr (by decide), (own _ (by decide)).2.mpr (by decide),
    (others other different _ ?_).1, (others other different _ ?_).2, different⟩
  · decide
  · decide

end BrokerNames

end SessionGate
