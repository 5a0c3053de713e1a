import Mathlib.Data.List.Induction
import SessionGate.Proofs.Url.Percent
import SessionGate.Url.Segments

/-! Paths as lists of segments: which texts are one more segment of a path they are pushed onto. -/

namespace SessionGate.Url

open Text (hexValue? hexValue?_lowerChar lowerChar)

/-- The segments of a path: what stands behind each of its slashes. -/
def segments (path : List Char) : List (List Char) := (splitAt (· == '/') path).drop 1

/-- The segments of a path without an empty one at its end. -/
def leading (path : List Char) : List (List Char) :=
  if (segments path).getLast? = some [] then (segments path).dropLast else segments path

/-- The segments of a path, each with its escapes undone. -/
def Path.told (path : Path) : List (List UInt8) := (segments path.chars).map decode

/-- A text that stands for a place and is not pushed at all. -/
def IsDots (text : String) : Prop := text = "." ∨ text = ".."

/-- A text that is pushed as one segment: it stands for no place, and nothing of it is dropped. -/
structure IsSegment (text : String) : Prop where
  undotted : ¬ IsDots text
  whole : ∀ c ∈ text.toList, isDropped c = false

instance (text : String) : Decidable (IsDots text) := inferInstanceAs (Decidable (_ ∨ _))

instance (text : String) : Decidable (IsSegment text) :=
  decidable_of_iff (¬ IsDots text ∧ text.toList.all (fun c => isDropped c == false) = true)
    ⟨fun known => ⟨known.1, by simpa using known.2⟩,
      fun segment => ⟨segment.undotted, by simpa using segment.whole⟩⟩

variable {x y path : List Char} {c : Char} {special : Bool} {text : String}

/-- What is cut at separators has at least one part. -/
theorem splitAt_ne_nil (isSeparator : Char → Bool) (chars : List Char) :
    splitAt isSeparator chars ≠ [] := by
  -- Even no characters at all are one part, and a separator only adds to the parts behind it.
  cases chars with
  | nil => simp [splitAt]
  | cons c rest =>
    rw [splitAt]
    split
    next => simp
    next => split <;> simp

/-- A separator cuts a text in two. -/
theorem splitAt_append {isSeparator : Char → Bool} {mark : Char} (cuts : isSeparator mark = true)
    (x y : List Char) :
    splitAt isSeparator (x ++ mark :: y) = splitAt isSeparator x ++ splitAt isSeparator y := by
  -- What stands before the separator is cut as before, down to the empty text right in front of it.
  induction x with
  | nil =>
    rw [List.nil_append, splitAt.eq_2, if_pos cuts]
    rfl
  | cons c x ih =>
    rw [List.cons_append, splitAt, splitAt, ih]
    split
    next => rfl
    next =>
      cases parts : splitAt isSeparator x with
      | nil => exact absurd parts (splitAt_ne_nil _ _)
      | cons first others => rfl

/-- A text without a separator is one part. -/
theorem splitAt_whole {isSeparator : Char → Bool} {chars : List Char}
    (whole : ∀ c ∈ chars, isSeparator c = false) : splitAt isSeparator chars = [chars] := by
  -- The induction is on the characters, and none of them begins a new part.
  induction chars with
  | nil => rfl
  | cons c chars ih =>
    rw [splitAt, whole c List.mem_cons_self,
      ih fun d member => whole d (List.mem_cons_of_mem _ member)]
    rfl

/-- A slash and a text without one are one more segment. -/
theorem segments_append (whole : '/' ∉ y) : segments (x ++ '/' :: y) = segments x ++ [y] := by
  -- Behind the slash there is one part, and before it at least one that is dropped.
  have one : splitAt (· == '/') y = [y] :=
    splitAt_whole fun c member => beq_eq_false_iff_ne.mpr fun slash => whole (slash ▸ member)
  have some : 1 ≤ (splitAt (· == '/') x).length :=
    List.length_pos_of_ne_nil (splitAt_ne_nil _ _)
  rw [segments, splitAt_append rfl, one, List.drop_append_of_le_length some, segments]

/-- A path that ends with a slash has an empty segment at its end. -/
theorem segments_slash (x : List Char) : segments (x ++ ['/']) = segments x ++ [[]] :=
  -- Behind the last slash stands the empty text.
  segments_append (by simp)

/-- A text with a slash has a last one. -/
theorem exists_last_slash (member : '/' ∈ path) : ∃ x y, path = x ++ '/' :: y ∧ '/' ∉ y := by
  -- The induction is on the path: the last slash is behind the first character or is this
  -- character.
  induction path with
  | nil => cases member
  | cons c path ih =>
    by_cases later : '/' ∈ path
    · obtain ⟨x, y, rfl, whole⟩ := ih later
      exact ⟨c :: x, y, rfl, whole⟩
    · rcases List.mem_cons.mp member with rfl | behind
      · exact ⟨[], path, rfl, later⟩
      · exact absurd behind later

/-- Up to its last slash a path loses its last segment. -/
theorem toLastSlash_append (whole : '/' ∉ y) : toLastSlash (x ++ '/' :: y) = x ++ ['/'] := by
  -- Seen from the end all of the last segment is passed over, up to the slash in front of it.
  have passed : ∀ c ∈ y.reverse, (c != '/') = true := fun c member =>
    bne_iff_ne.mpr fun slash => whole (slash ▸ List.mem_reverse.mp member)
  rw [toLastSlash, List.reverse_append, List.reverse_cons, List.append_assoc,
    List.dropWhile_append_of_pos passed]
  simp

/-- The slash at its end is the last one of a path. -/
theorem toLastSlash_slash (x : List Char) : toLastSlash (x ++ ['/']) = x ++ ['/'] :=
  -- Nothing stands behind the slash at the end.
  toLastSlash_append (by simp)

/-- A path ends with a slash that is put at its end. -/
theorem endsWithSlash_slash (x : List Char) : endsWithSlash (x ++ ['/']) = true := by
  -- The last character is the slash that was put there.
  simp [endsWithSlash]

/-- A path that ends with a slash is given none. -/
theorem withSlash_slash (x : List Char) : withSlash (x ++ ['/']) = x ++ ['/'] := by
  -- The end is looked at before a slash is added.
  rw [withSlash, endsWithSlash_slash]
  rfl

/-- A character that is lowered to a mark is this mark. -/
theorem of_lowerChar {mark : Char} (lowered : lowerChar c = mark) (low : mark.toNat < 97) :
    c = mark := by
  rw [lowerChar] at lowered
  split at lowered
  next capital =>
    simp only [Bool.and_eq_true, decide_eq_true_eq, Char.le_def, UInt32.le_iff_toNat_le] at capital
    have first : 65 ≤ c.toNat := capital.1
    have last : c.toNat ≤ 90 := capital.2
    -- A capital would have become a letter, and no mark is as far up as the letters.
    have point := Text.toNat_charOfNat (show c.toNat + 32 < 0xD800 by omega)
    rw [lowered] at point
    omega
  next => exact lowered

/-- A dot stands for the byte of a dot. -/
theorem decode_dot (lowered : lowerChar c = '.') (rest : List Char) :
    decode (c :: rest) = 0x2E :: decode rest := by
  -- No capital is lowered to a dot, so the character is the dot itself.
  obtain rfl := of_lowerChar lowered (by decide)
  exact decode_cons (by decide) rest

/-- The escape of a dot, in either case, stands for the byte of a dot. -/
theorem decode_escapedDot {d e : Char} (mark : lowerChar c = '%') (first : lowerChar d = '2')
    (second : lowerChar e = 'e') (rest : List Char) :
    decode (c :: d :: e :: rest) = 0x2E :: decode rest := by
  -- The mark is no letter, and the digits of the escape have their values in either case.
  obtain rfl := of_lowerChar mark (by decide)
  have high : hexValue? d = some 2 := by
    rw [← hexValue?_lowerChar, first]
    rfl
  have low : hexValue? e = some 14 := by
    rw [← hexValue?_lowerChar, second]
    rfl
  exact decode_escape high low rest

/-- A segment for the place it is at decodes to a dot. -/
theorem decode_isSingleDot {segment : List Char} (single : isSingleDot segment = true) :
    decode segment = [0x2E] := by
  -- Such a segment is a dot, or the escape of one in either case.
  simp only [isSingleDot, Bool.or_eq_true, beq_iff_eq] at single
  rcases single with rfl | lowered
  · exact decode_dot rfl []
  · rw [show "%2e".toList = ['%', '2', 'e'] from rfl] at lowered
    simp only [List.map_eq_cons_iff, List.map_eq_nil_iff] at lowered
    obtain ⟨c, _, rfl, mark, d, _, rfl, first, e, _, rfl, second, rfl⟩ := lowered
    exact decode_escapedDot mark first second []

/-- A segment for the place above decodes to two dots. -/
theorem decode_isDoubleDot {segment : List Char} (double : isDoubleDot segment = true) :
    decode segment = [0x2E, 0x2E] := by
  -- Such a segment is one of four spellings: each of the two dots may be escaped.
  simp only [isDoubleDot, Bool.or_eq_true, beq_iff_eq,
    show "..".toList = ['.', '.'] from rfl,
    show "%2e%2e".toList = ['%', '2', 'e', '%', '2', 'e'] from rfl,
    show ".%2e".toList = ['.', '%', '2', 'e'] from rfl,
    show "%2e.".toList = ['%', '2', 'e', '.'] from rfl,
    List.map_eq_cons_iff, List.map_eq_nil_iff] at double
  rcases double with ((both | both) | dotFirst) | dotLast
  · -- Both dots are written plainly.
    obtain ⟨a, _, rfl, one, b, _, rfl, two, rfl⟩ := both
    rw [decode_dot one, decode_dot two]
    rfl
  · -- Both are escaped, so each takes three characters.
    obtain ⟨a, _, rfl, one, b, _, rfl, two, c, _, rfl, three, d, _, rfl, four, e, _, rfl, five,
      f, _, rfl, six, rfl⟩ := both
    rw [decode_escapedDot one two three, decode_escapedDot four five six]
    rfl
  · obtain ⟨a, _, rfl, one, b, _, rfl, two, c, _, rfl, three, d, _, rfl, four, rfl⟩ := dotFirst
    rw [decode_dot one, decode_escapedDot two three four]
    rfl
  · obtain ⟨a, _, rfl, one, b, _, rfl, two, c, _, rfl, three, d, _, rfl, four, rfl⟩ := dotLast
    rw [decode_escapedDot one two three, decode_dot four]
    rfl

/-- What a segment escapes when it is pushed. -/
def segmentSet (special : Bool) : EscapeSet := if special then inSpecialSegment else inSegment

/-- A path with the slash in front of its next segment. -/
def opened (path : List Char) : List Char := if path = ['/'] then path else path ++ ['/']

/-- What of a text is pushed. -/
def kept (text : String) : List Char := text.toList.filter fun c => !isDropped c

/-- A percent sign of a segment is escaped. -/
theorem segmentSet_percent (special : Bool) : segmentSet special '%' = true := by
  -- Both sets of escapes contain the percent sign.
  cases special <;> rfl

/-- A segment stays one. -/
theorem slash_not_mem_encode (special : Bool) (chars : List Char) :
    '/' ∉ encode (segmentSet special) chars := by
  -- Both sets escape the slash, and no escape has one in it.
  refine not_mem_encode ?_ (by decide) chars
  cases special <;> rfl

/-- A segment stands for the bytes of what is pushed. -/
theorem decode_segment (special : Bool) (chars : List Char) :
    decode (encode (segmentSet special) chars) = chars.flatMap String.utf8EncodeChar :=
  -- A percent sign of the text is escaped, so decoding meets only what encoding wrote.
  decode_encode (segmentSet_percent special) chars

/-- All of a segment is pushed. -/
theorem IsSegment.kept_eq (segment : IsSegment text) : kept text = text.toList :=
  -- None of its characters is one that is dropped.
  List.filter_eq_self.mpr fun c member => by rw [segment.whole c member]; rfl

/-- A text that is pushed as a whole is a segment, if it stands for no place. -/
theorem isSegment_of_kept (undotted : ¬ IsDots text) (whole : kept text = text.toList) :
    IsSegment text := by
  -- Nothing is dropped only where no character is one to be dropped.
  refine ⟨undotted, fun c member => ?_⟩
  simpa using List.filter_eq_self.mp whole c member

/-- A text that stands for a place leaves a path as it is. -/
theorem pushSegment_dots (dots : IsDots text) (special : Bool) (path : List Char) :
    pushSegment special path text = path := by
  -- Both spellings are tested for before anything is pushed.
  rcases dots with rfl | rfl <;> rfl

/-- A text that stands for no place is added behind a slash. -/
theorem pushSegment_eq (undotted : ¬ IsDots text) (special : Bool) (path : List Char) :
    pushSegment special path text =
      addSegment (opened path) (encode (segmentSet special) (kept text)) false := by
  -- What stands for no place passes the test for the two spellings.
  have plain : (text == "." || text == "..") = false := by
    simpa [IsDots, not_or] using undotted
  simp only [pushSegment, plain, opened, segmentSet, kept, beq_iff_eq, Bool.false_eq_true, if_false]

/-- One place above a path that ends with a slash is that path, or that up to the slash before. -/
theorem parentPath_slash (x : List Char) :
    parentPath (x ++ ['/']) = x ++ ['/'] ∨ '/' ∈ x ∧ parentPath (x ++ ['/']) = toLastSlash x := by
  -- The segment above is cut off only if a slash is left before it.
  simp only [parentPath, List.dropLast_concat, toLastSlash_slash]
  split
  next above =>
    simp only [Bool.and_eq_true, List.contains_iff_mem] at above
    exact .inr ⟨above.1.2, rfl⟩
  next => exact .inl rfl

/-- A path always ends with the slash in front of its next segment. -/
theorem exists_opened (path : List Char) : ∃ x, opened path = x ++ ['/'] := by
  -- The root is its own slash, and every other path is given one.
  rw [opened]
  split
  next root => exact ⟨[], root⟩
  next => exact ⟨path, rfl⟩

/-- A segment is added behind a slash. -/
theorem pushSegment_segment (segment : IsSegment text) (special : Bool) (path : List Char) :
    pushSegment special path text = opened path ++ encode (segmentSet special) text.toList := by
  -- A dot segment would decode to dots, and what is written for the text decodes to the text.
  have bytes := decode_segment special text.toList
  have known : ∀ dots : List Char, text.toList.flatMap String.utf8EncodeChar =
      dots.flatMap String.utf8EncodeChar → text = String.ofList dots := fun dots same => by
    rw [← Text.encode_inj.mp same, String.ofList_toList]
  have notDouble : ¬ isDoubleDot (encode (segmentSet special) text.toList) = true := fun double =>
    segment.undotted (.inr (known ['.', '.'] (bytes.symm.trans (decode_isDoubleDot double))))
  have notSingle : ¬ isSingleDot (encode (segmentSet special) text.toList) = true := fun single =>
    segment.undotted (.inl (known ['.'] (bytes.symm.trans (decode_isSingleDot single))))
  rw [pushSegment_eq segment.undotted, segment.kept_eq, addSegment, if_neg notDouble,
    if_neg notSingle]
  exact List.append_nil _

/-- The root has one segment, and so has what follows directly behind it. -/
theorem segments_root (whole : '/' ∉ y) : segments ('/' :: y) = [y] :=
  -- The root is the slash behind an empty path.
  @segments_append [] _ whole

/-- Up to its last slash a path has as many segments as before. -/
theorem length_segments_toLastSlash (member : '/' ∈ path) :
    (segments (toLastSlash path)).length = (segments path).length := by
  -- Cutting at the last slash only empties the last segment.
  obtain ⟨x, y, rfl, whole⟩ := exists_last_slash member
  rw [toLastSlash_append whole, segments_slash, segments_append whole, List.length_append,
    List.length_append]
  rfl

/-- Behind the slash that follows a path stands its next segment. -/
theorem segments_opened (other : path ≠ ['/']) (whole : '/' ∉ y) :
    segments (opened path ++ y) = segments path ++ [y] := by
  -- A path other than the root is given the slash that begins the segment.
  rw [opened, if_neg other, List.append_assoc]
  exact segments_append whole

/-- A text that is pushed as nothing is not all pushed. -/
theorem utf8_ne_nil (some : kept text ≠ []) : Text.utf8 text ≠ [] := by
  -- A text without bytes is empty, and nothing could be kept of it.
  intro none
  have empty : text.toList = [] := Text.encode_inj.mp none
  rw [kept, empty] at some
  exact some rfl

/-- Onto the root one segment is pushed in place of the empty one. -/
theorem length_segments_root (special : Bool) (text : String) :
    (segments (pushSegment special ['/'] text)).length = 1 := by
  by_cases dots : IsDots text
  · rw [pushSegment_dots dots]
    rfl
  rw [pushSegment_eq dots, show opened ['/'] = ['/'] from rfl, addSegment]
  -- Nothing is above the root.
  split
  next => rfl
  split
  next => rfl
  next =>
    rw [if_neg Bool.false_ne_true, List.append_nil, List.singleton_append,
      segments_root (slash_not_mem_encode special _)]
    rfl

/-- At most one segment is pushed, and it decodes to the text only if the text is a segment. -/
theorem pushSegment_cases (special : Bool) (path : List Char) (text : String) :
    (segments (pushSegment special path text)).length ≤ (segments path).length ∨
      ∃ added, segments (pushSegment special path text) = segments path ++ [added] ∧
        (decode added = Text.utf8 text → IsSegment text) := by
  -- At the root the segment takes the place of the empty one, so there are no more than before.
  by_cases root : path = ['/']
  · subst root
    exact .inl (Nat.le_of_eq (length_segments_root special text))
  -- Dots alone are not pushed at all.
  by_cases dots : IsDots text
  · rw [pushSegment_dots dots]
    exact .inl (Nat.le_refl _)
  have bytes := decode_segment special (kept text)
  have slash : opened path = path ++ ['/'] := if_neg root
  -- Dots that are left over when other characters are dropped may leave an empty segment behind.
  have lost : decode (encode (segmentSet special) (kept text)) ≠ [] → ∃ added : List Char,
      segments path ++ [[]] = segments path ++ [added] ∧
        (decode added = Text.utf8 text → IsSegment text) := fun some =>
    ⟨[], rfl, fun none => absurd none.symm (utf8_ne_nil fun empty => some (by rw [empty]; rfl))⟩
  rw [pushSegment_eq dots, addSegment, if_neg Bool.false_ne_true]
  split
  -- What is left of the text means the segment above, and at the top there is none to go back to.
  next above =>
    rw [slash]
    rcases parentPath_slash path with here | ⟨member, shorter⟩
    · rw [here, segments_slash]
      exact .inr (lost (by rw [decode_isDoubleDot above]; exact List.cons_ne_nil _ _))
    · rw [shorter, length_segments_toLastSlash member]
      exact .inl (Nat.le_refl _)
  split
  -- What is left of it means the segment that is there, and an empty one is added.
  next here =>
    rw [slash, withSlash_slash, segments_slash]
    exact .inr (lost (by rw [decode_isSingleDot here]; exact List.cons_ne_nil _ _))
  -- Otherwise the segment is added as it is written.
  next =>
    rw [if_neg Bool.false_ne_true, List.append_nil,
      segments_opened root (slash_not_mem_encode special _)]
    refine .inr ⟨_, rfl, fun told => ?_⟩
    rw [bytes] at told
    exact isSegment_of_kept dots (Text.encode_inj.mp told)

/-- A text that is pushed right below the root is all of the path just if it is a segment. -/
theorem told_pushSegment_root_iff (root : path = [] ∨ path = ['/']) (special : Bool)
    (text : String) :
    (segments (pushSegment special path text)).map decode = [Text.utf8 text] ↔ IsSegment text := by
  -- Either path is opened as the root, so the two differ only where nothing is pushed.
  have slash : opened path = ['/'] := by rcases root with rfl | rfl <;> rfl
  constructor
  · intro told
    by_cases dots : IsDots text
    · -- Nothing was pushed, and neither an empty path nor the root tells of a place.
      rw [pushSegment_dots dots] at told
      rcases root with rfl | rfl <;> rcases dots with rfl | rfl <;> exact absurd told (by decide)
    · have same : pushSegment special path text = pushSegment special [] text := by
        rw [pushSegment_eq dots, pushSegment_eq dots, slash]
        rfl
      rw [same] at told
      -- One segment alone is told, so one has been added and it is the whole text.
      rcases pushSegment_cases special [] text with none | ⟨added, some, whole⟩
      · have sizes := congrArg List.length told
        rw [List.length_map, Nat.le_zero.mp none] at sizes
        cases sizes
      · rw [some] at told
        exact whole (List.cons.inj told).1
  · intro segment
    rw [pushSegment_segment segment, slash, List.singleton_append,
      segments_root (slash_not_mem_encode special _), List.map_singleton, decode_segment]
    rfl

/-- A path with several texts pushed one after the other. -/
def pushAll (special : Bool) (path : List Char) (texts : List String) : List Char :=
  texts.foldl (pushSegment special) path

/-- With each text a path gets at most one segment more. -/
theorem length_segments_pushAll (special : Bool) (path : List Char) (texts : List String) :
    (segments (pushAll special path texts)).length ≤ (segments path).length + texts.length := by
  -- The induction is on the texts, and each is one push.
  induction texts generalizing path with
  | nil => exact Nat.le_refl _
  | cons text texts ih =>
    have others := ih (pushSegment special path text)
    have first : (segments (pushSegment special path text)).length ≤
        (segments path).length + 1 := by
      rcases pushSegment_cases special path text with fewer | ⟨added, more, -⟩
      · exact Nat.le_succ_of_le fewer
      · rw [more, List.length_append]
        exact Nat.le_refl _
    rw [pushAll, List.foldl_cons, List.length_cons]
    rw [pushAll] at others
    omega

/-- Below the root segments are pushed one behind the other. -/
theorem told_pushAll (special : Bool) (below : 1 < path.length) {texts : List String}
    (all : ∀ text ∈ texts, IsSegment text) :
    (segments (pushAll special path texts)).map decode =
      (segments path).map decode ++ texts.map Text.utf8 := by
  -- The induction is on the texts, with any path below the root, since each push lengthens it.
  induction texts generalizing path with
  | nil => exact (List.append_nil _).symm
  | cons text texts ih =>
    have other : path ≠ ['/'] := fun root => by rw [root] at below; exact absurd below (by decide)
    have pushed := pushSegment_segment (all text List.mem_cons_self) special path
    have longer : 1 < (pushSegment special path text).length := by
      rw [pushed, opened, if_neg other, List.length_append, List.length_append]
      omega
    have others := ih longer fun text later => all text (List.mem_cons_of_mem _ later)
    rw [pushed, segments_opened other (slash_not_mem_encode special _), List.map_append,
      List.append_assoc] at others
    rw [pushAll, List.foldl_cons, pushed]
    exact others.trans (congrArg (fun told => _ ++ (told :: _)) (decode_segment special _))

/-- The segments of a path are those it had and the texts that were pushed, just if each of these
is a segment. -/
theorem told_pushAll_iff (special : Bool) (below : 1 < path.length) (texts : List String) :
    (segments (pushAll special path texts)).map decode =
        (segments path).map decode ++ texts.map Text.utf8 ↔ ∀ text ∈ texts, IsSegment text := by
  refine ⟨fun told => ?_, told_pushAll special below⟩
  -- The last text must have brought a segment, or there were too few of them.
  induction texts using List.reverseRecOn with
  | nil => exact fun text none => absurd none List.not_mem_nil
  | append_singleton texts last ih =>
    have most := length_segments_pushAll special path texts
    rw [pushAll, List.foldl_append] at told
    change (segments (pushSegment special (pushAll special path texts) last)).map decode = _ at told
    rcases pushSegment_cases special (pushAll special path texts) last with
      fewer | ⟨added, more, whole⟩
    · -- There are no more segments than with the texts before, which is one too few.
      have sizes := congrArg List.length told
      simp only [List.length_map, List.length_append, List.length_singleton] at sizes
      omega
    · -- The last segment is that of the last text, and the induction is about the others.
      rw [more, List.map_append, List.map_append, ← List.append_assoc] at told
      obtain ⟨before, behind⟩ := List.append_inj' told rfl
      intro text member
      rcases List.mem_append.mp member with early | late
      · exact ih before text early
      · obtain rfl := List.mem_singleton.mp late
        exact whole (List.cons.inj behind).1

/-- A path that is empty or begins with a slash. -/
def Rooted (path : List Char) : Prop := ∀ c ∈ path.head?, c = '/'

/-- Cut back to its root a path is empty or the root. -/
theorem Rooted.take_one (rooted : Rooted path) : path.take 1 = [] ∨ path.take 1 = ['/'] := by
  -- The first character of a rooted path, if it has one, is the slash.
  cases path with
  | nil => exact .inl rfl
  | cons c rest => exact .inr (rooted c rfl ▸ rfl)

/-- A path without an empty last segment, unless it is the root. -/
def withoutEmpty (path : List Char) : List Char :=
  if 1 < path.length && endsWithSlash path then path.dropLast else path

/-- Cut back to its root a path stays rooted. -/
theorem Rooted.cut (rooted : Rooted path) : Rooted (path.take 1) := by
  -- Cutting keeps the first character.
  cases path with
  | nil => exact rooted
  | cons c rest => exact rooted

/-- Without its empty last segment a path has the segments before. -/
theorem segments_withoutEmpty (rooted : Rooted path) (other : path ≠ ['/']) :
    segments (withoutEmpty path) = leading path := by
  -- A rooted path has a last slash, and what is behind it is empty or not.
  cases path with
  | nil => rfl
  | cons c rest =>
    obtain rfl := rooted c rfl
    obtain ⟨x, y, parts, whole⟩ := exists_last_slash (List.mem_cons_self (a := '/') (l := rest))
    rw [leading, parts, segments_append whole, List.getLast?_concat, List.dropLast_concat]
    cases y with
    -- An empty last segment is cut off with the slash in front of it.
    | nil =>
      have long : 1 < (x ++ ['/']).length := by
        cases x with
        | nil => exact absurd parts other
        | cons c x => simp
      rw [if_pos rfl, withoutEmpty, endsWithSlash_slash, decide_eq_true long, Bool.and_self,
        if_pos rfl, List.dropLast_concat]
    -- A last segment that is not empty keeps the path from ending with a slash.
    | cons c y =>
      have unclosed : endsWithSlash (x ++ '/' :: c :: y) = false := by
        rw [endsWithSlash, List.getLast?_append_of_ne_nil _ (List.cons_ne_nil _ _),
          List.getLast?_cons_cons, beq_eq_false_iff_ne]
        exact fun slash => whole (List.mem_of_getLast? slash)
      rw [if_neg (by simp), withoutEmpty, unclosed, Bool.and_false, if_neg Bool.false_ne_true,
        segments_append whole]

/-- Only the root and the path of two empty segments are the root without an empty last segment. -/
theorem of_withoutEmpty_root (short : withoutEmpty path = ['/']) :
    path = ['/'] ∨ path = ['/', '/'] := by
  -- Only an empty last segment is taken away, and a slash with it.
  rw [withoutEmpty] at short
  split at short
  next cut =>
    simp only [Bool.and_eq_true, endsWithSlash, beq_iff_eq] at cut
    have whole := List.dropLast_append_getLast? '/' (Option.mem_def.mpr cut.2)
    rw [short] at whole
    exact .inr whole.symm
  next => exact .inl short

/-- What is written for a text is empty only if the text is. -/
theorem encode_ne_nil (some : text ≠ "") (special : Bool) :
    encode (segmentSet special) text.toList ≠ [] := by
  intro none
  -- No bytes are written only for the text that has none.
  have bytes := decode_segment special text.toList
  rw [none] at bytes
  exact some (Text.utf8_inj.mp bytes.symm)

/-- A path with a segment pushed that is not empty is no longer the root. -/
theorem one_lt_length_pushSegment (segment : IsSegment text) (some : text ≠ "") (special : Bool)
    (path : List Char) : 1 < (pushSegment special path text).length := by
  -- The slash that ends the path and at least one character of the segment are counted.
  obtain ⟨x, slash⟩ := exists_opened path
  have written := List.length_pos_of_ne_nil (encode_ne_nil some special)
  rw [pushSegment_segment segment, slash, List.length_append, List.length_append,
    List.length_singleton]
  omega

/-- The segments of a path are those of a base, less an empty one at its end, and the texts that
were pushed, just if each of these is a segment and the base is not the path of two empty segments,
which loses both. -/
theorem told_pushAll_withoutEmpty_iff {first : String} (rooted : Rooted path)
    (segment : IsSegment first) (some : first ≠ "") (special : Bool) (texts : List String) :
    (segments (pushAll special (withoutEmpty path) (first :: texts))).map decode =
        (leading path).map decode ++ Text.utf8 first :: texts.map Text.utf8 ↔
      path ≠ ['/', '/'] ∧ ∀ text ∈ texts, IsSegment text := by
  -- The first text is a segment, so behind it there is more than the root.
  have below := one_lt_length_pushSegment segment some special (withoutEmpty path)
  have pushed := pushSegment_segment segment special (withoutEmpty path)
  have whole := slash_not_mem_encode special first.toList
  have bytes : decode (encode (segmentSet special) first.toList) = Text.utf8 first :=
    decode_segment special _
  by_cases double : path = ['/', '/']
  · -- The base is cut to the root, whose segment the first text takes the place of.
    subst double
    have most := length_segments_pushAll special (pushSegment special ['/'] first) texts
    rw [length_segments_root] at most
    -- The number of segments is one short of those that are to be told.
    refine iff_of_false (fun told => ?_) fun known => known.1 rfl
    have sizes := congrArg List.length told
    simp only [List.length_map, List.length_append, List.length_cons,
      show (leading ['/', '/']).length = 1 from rfl] at sizes
    rw [show withoutEmpty ['/', '/'] = ['/'] from rfl, pushAll, List.foldl_cons] at sizes
    rw [pushAll] at most
    omega
  · -- Elsewhere the base's own segments stay, and that of the first text follows them.
    have before : segments (pushSegment special (withoutEmpty path) first) =
        leading path ++ [encode (segmentSet special) first.toList] := by
      by_cases root : path = ['/']
      · subst root
        exact pushed ▸ segments_root whole
      · rw [← segments_withoutEmpty rooted root, pushed]
        exact segments_opened (fun short => (of_withoutEmpty_root short).elim root double) whole
    rw [← told_pushAll_iff special below texts, before, and_iff_right double, List.map_append,
      List.append_assoc, List.map_singleton, bytes]
    rfl

/-- Different segments lead to different paths. -/
theorem pushSegment_inj {other : String} (segment : IsSegment text) (another : IsSegment other)
    (special : Bool) (path : List Char) :
    pushSegment special path text = pushSegment special path other ↔ text = other := by
  -- What was added is the same, and it decodes to the texts.
  refine ⟨fun same => ?_, congrArg _⟩
  rw [pushSegment_segment segment, pushSegment_segment another, List.append_right_inj] at same
  have bytes := congrArg decode same
  rw [decode_segment, decode_segment] at bytes
  exact Text.utf8_inj.mp bytes

/-- A segment leads below the path that it is pushed onto, if it is not empty. -/
theorem pushSegment_ne (segment : IsSegment text) (some : text ≠ "") (special : Bool)
    (path : List Char) : pushSegment special path text ≠ path := by
  -- The path only grows by its slash and by what is written for the segment.
  intro same
  have sizes := congrArg List.length same
  have written := List.length_pos_of_ne_nil (encode_ne_nil some special)
  have least : path.length ≤ (opened path).length := by
    rw [opened]
    split
    next => exact Nat.le_refl _
    next => exact List.length_append ▸ Nat.le_add_right _ _
  rw [pushSegment_segment segment, List.length_append] at sizes
  omega

/-- Paths that are not empty stay different when a slash is put behind them. -/
theorem opened_inj (some : x ≠ []) (more : y ≠ []) : opened x = opened y ↔ x = y := by
  -- Besides the root only an empty path has the root as what is put before its next segment.
  refine ⟨fun same => ?_, congrArg _⟩
  have root : ∀ {z : List Char}, z ≠ [] → z ++ ['/'] ≠ ['/'] := fun some same =>
    some (List.append_left_eq_self.mp same)
  rw [opened, opened] at same
  split at same <;> split at same
  next first second => rw [first, second]
  next first _ => exact absurd (same.symm.trans first) (root more)
  next _ second => exact absurd (same.trans second) (root some)
  next => exact List.append_left_injective _ same

end SessionGate.Url
