import Positioning.Proofs.Rendering
import Positioning.Proofs.SignalFormat

/-!
# What decides a line

The lines and blocks of positions and courses are forms with slots. No slot holds the character with
which the text behind it starts, so the slots can be read back from what is printed. The flags of a
signal alone decide what stands in a slot of a line: the number that the signal carries where the
flag is set, and minus one elsewhere. The other bits of the field word decide nothing, and a reading
keeps all of a signal but these.

## Main definitions

- `Report.Form` is a text with slots, `Form.fill` fills the slots and `Form.read` reads them.
- `FieldWord.shown` is the number that a signal shows in a slot.

## Main statements

- `Report.Form.read_fill`: the slots are read as they were filled.
- `FieldWord.ofFlags_flag`: three flags are the three low bits of their word.
- `Report.fields_decide`: what decides a line or block, and what a reading keeps.
-/

namespace Positioning

/-! ## Flags -/

namespace FieldWord

/-- A number where a bit of the field word is set, and minus one elsewhere. -/
def shown (fields bit : Int32) (x : Binary64) : Binary64 :=
  if fields &&& bit ≠ 0 then x else Binary64.minusOne

theorem and_bit (fields : Int32) {i : Nat} {bit : Int32}
    (hbit : bit.toBitVec = BitVec.twoPow 32 i) :
    fields &&& bit = if flag fields i then bit else 0 := by
  rw [← Int32.toBitVec_inj, Int32.toBitVec_and, hbit, BitVec.and_twoPow, flag]
  split
  · exact hbit.symm
  · rfl

/-- The flags of a word are set where its low bits are. -/
theorem flag_eq_true_iff (fields : Int32) {i : Nat} {bit : Int32}
    (hbit : bit.toBitVec = BitVec.twoPow 32 i) (hne : bit ≠ 0) :
    flag fields i = true ↔ fields &&& bit ≠ 0 := by
  rw [and_bit fields hbit]
  cases flag fields i <;> simp [hne]

theorem orSentinel_flag (fields : Int32) {i : Nat} {bit : Int32}
    (hbit : bit.toBitVec = BitVec.twoPow 32 i) (hne : bit ≠ 0) (x : Binary64) :
    (⟨x, flag fields i⟩ : Reading).orSentinel = shown fields bit x := by
  simp only [Reading.orSentinel, Reading.get?, shown, ← flag_eq_true_iff fields hbit hne]
  cases flag fields i <;> rfl

/-- The readings of a signal show its numbers by the three low bits of the field word. -/
theorem orSentinel_flags (fields : Int32) (x : Binary64) :
    (⟨x, flag fields 0⟩ : Reading).orSentinel = shown fields 1 x ∧
      (⟨x, flag fields 1⟩ : Reading).orSentinel = shown fields 2 x ∧
      (⟨x, flag fields 2⟩ : Reading).orSentinel = shown fields 4 x :=
  ⟨orSentinel_flag fields (by decide) (by decide) x,
    orSentinel_flag fields (by decide) (by decide) x,
    orSentinel_flag fields (by decide) (by decide) x⟩

/-- Three flags of a word make the word of its three low bits. -/
theorem ofFlags_flag (fields : Int32) :
    ofFlags (flag fields 0) (flag fields 1) (flag fields 2) = fields &&& 7 := by
  have hseven : fields &&& 7 = (fields &&& 1) ||| (fields &&& 2) ||| (fields &&& 4) := by
    have hbits : (7 : Int32).toBitVec = 1#32 ||| 2#32 ||| 4#32 := by decide
    rw [← Int32.toBitVec_inj, Int32.toBitVec_and, hbits, BitVec.and_or_distrib_left,
      BitVec.and_or_distrib_left]
    rfl
  -- Each low bit is its flag, and eight cases are left.
  rw [hseven, and_bit fields (i := 0) (by decide), and_bit fields (i := 1) (by decide),
    and_bit fields (i := 2) (by decide)]
  cases flag fields 0 <;> cases flag fields 1 <;> cases flag fields 2 <;> decide

end FieldWord

/-! ## Readings -/

theorem Position.toSignal_ofSignal (s : PositionChanged) :
    (Position.ofSignal s).toSignal = { s with fields := s.fields &&& 7 } := by
  rw [← FieldWord.ofFlags_flag]
  rfl

theorem Course.toSignal_ofSignal (s : CourseChanged) :
    (Course.ofSignal s).toSignal = { s with fields := s.fields &&& 7 } := by
  rw [← FieldWord.ofFlags_flag]
  rfl

theorem Accuracy.toSignal_ofSignal (s : AccuracyChanged) :
    (Accuracy.ofSignal s).toSignal = { s with fields := s.fields &&& 7 } := by
  rw [← FieldWord.ofFlags_flag]
  rfl

/-! ## Slots -/

namespace Decimal

/-- The characters of numbers and times. -/
def IsSlotChar (c : Char) : Prop :=
  c.isDigit = true ∨ c ∈ ['-', '.', 'i', 'n', 'f', 'N', 'a']

instance : DecidablePred IsSlotChar := fun c =>
  inferInstanceAs (Decidable (c.isDigit = true ∨ c ∈ ['-', '.', 'i', 'n', 'f', 'N', 'a']))

def IsSlot (text : String) : Prop :=
  ∀ c ∈ text.toList, IsSlotChar c

theorem isSlot_fixed (places : Nat) (x : Binary64) : IsSlot (fixed places x) := by
  intro c hc
  have hsign : ∀ c ∈ (if x.isNegative then ['-'] else []), IsSlotChar c := by
    cases x.isNegative <;> simp [IsSlotChar]
  have hnan : ['N', 'a', 'N'] ⊆ ['-', '.', 'i', 'n', 'f', 'N', 'a'] := by decide
  have hinfinite : ['i', 'n', 'f'] ⊆ ['-', '.', 'i', 'n', 'f', 'N', 'a'] := by decide
  rw [fixed, String.toList_ofList, fixedDigits] at hc
  split at hc
  · exact .inr (hnan hc)
  · rcases List.mem_append.mp hc with hfront | hback
    · exact hsign c hfront
    · split at hback
      · rcases List.mem_append.mp hback with hwhole | hpoint
        · exact .inl (isDigit_of_mem_digits _ c hwhole)
        · rcases List.mem_cons.mp hpoint with rfl | hfraction
          · exact .inr (by decide)
          · exact .inl (isDigit_of_mem_padded _ _ c hfraction)
      · exact .inr (hinfinite hback)

theorem isDigit_ofNat (n : Nat) : ∀ c ∈ (ofNat n).toList, c.isDigit = true := by
  rw [ofNat, String.toList_ofList]
  exact isDigit_of_mem_digits n

theorem isSlot_ofInt (n : Int) : IsSlot (ofInt n) := by
  intro c hc
  rw [ofInt] at hc
  split at hc
  · rw [String.toList_append] at hc
    rcases List.mem_append.mp hc with hsign | hdigits
    · rw [List.mem_singleton.mp hsign]
      decide
    · exact .inl (isDigit_ofNat _ c hdigits)
  · exact .inl (isDigit_ofNat _ c hc)

theorem ofNat_injective {n m : Nat} (h : ofNat n = ofNat m) : n = m := by
  have hvalue := congrArg value (String.ofList_injective h)
  rwa [value_digits, value_digits] at hvalue

/-- Negative integers are told by their sign, and all by their digits. -/
theorem ofInt_injective {n m : Int} (h : ofInt n = ofInt m) : n = m := by
  have hsign : ∀ k : Int, '-' ∈ (ofInt k).toList ↔ k < 0 := by
    intro k
    rw [ofInt]
    split
    · next hneg => simp [hneg]
    · next hpos =>
      refine ⟨fun hmem => ?_, fun hneg => absurd hneg hpos⟩
      exact absurd (isDigit_ofNat _ _ hmem) (by decide)
  have hsigns : n < 0 ↔ m < 0 := by rw [← hsign, ← hsign, h]
  rw [ofInt, ofInt] at h
  by_cases hn : n < 0
  · rw [if_pos hn, if_pos (hsigns.mp hn)] at h
    have habs := ofNat_injective (String.append_right_inj _ |>.mp h)
    have hm := hsigns.mp hn
    omega
  · rw [if_neg hn, if_neg (mt hsigns.mpr hn)] at h
    have habs := ofNat_injective h
    have hm := mt hsigns.mpr hn
    omega

end Decimal

namespace Report

open Decimal

/-- A text with slots: what stands before the first, between each two, and behind the last. No slot
holds the first character of what stands behind it. -/
structure Form where
  opening : String
  separators : List (Char × String)
  closing : String
  separated : ∀ s ∈ separators, ¬ IsSlotChar s.1

namespace Form

/-- Slots with the separators between them. -/
def joined : List (Char × String) → List String → List Char
  | _, [] => []
  | [], slot :: _ => slot.toList
  | (c, more) :: separators, slot :: slots =>
    slot.toList ++ c :: (more.toList ++ joined separators slots)

/-- There are as many slots as the form has, and they are slots. -/
structure Fits (f : Form) (slots : List String) : Prop where
  length : slots.length = f.separators.length + 1
  slots : ∀ slot ∈ slots, IsSlot slot

/-- The form with its slots filled. -/
def fill (f : Form) (slots : List String) : String :=
  f.opening ++ String.ofList (joined f.separators slots) ++ f.closing

/-- The pieces of a text, each up to the first character of the separator behind it. -/
def cut : List (Char × String) → List Char → List String
  | [], rest => [String.ofList rest]
  | (c, more) :: separators, text =>
    let piece := text.takeWhile (· ≠ c)
    String.ofList piece :: cut separators (text.drop (piece.length + 1 + more.toList.length))

/-- The slots of a filled form. -/
def read (f : Form) (text : String) : List String :=
  let inner := text.toList.drop f.opening.toList.length
  cut f.separators (inner.take (inner.length - f.closing.toList.length))

theorem cut_joined {separators : List (Char × String)} {slots : List String}
    (hlength : slots.length = separators.length + 1)
    (hslots : ∀ slot ∈ slots, IsSlot slot)
    (hseparators : ∀ s ∈ separators, ¬ IsSlotChar s.1) :
    cut separators (joined separators slots) = slots := by
  induction separators generalizing slots with
  | nil =>
    obtain ⟨slot, rfl⟩ := List.length_eq_one_iff.mp hlength
    simp [joined, cut]
  | cons s separators ih =>
    obtain ⟨c, more⟩ := s
    obtain ⟨slot, rest, rfl⟩ := List.exists_cons_of_length_eq_add_one hlength
    -- The separator's first character ends the slot, as the slot does not hold it.
    have hpiece : (slot.toList ++ c :: (more.toList ++ joined separators rest)).takeWhile
        (· ≠ c) = slot.toList := by
      rw [List.takeWhile_append_of_pos]
      · simp
      · rintro d hd
        have hne : d ≠ c := by
          rintro rfl
          exact hseparators (d, more) (List.mem_cons_self ..)
            (hslots slot (List.mem_cons_self ..) d hd)
        simpa using hne
    have hdrop : (slot.toList ++ c :: (more.toList ++ joined separators rest)).drop
        (slot.toList.length + 1 + more.toList.length) = joined separators rest := by
      rw [Nat.add_assoc, ← List.drop_drop, List.drop_left, Nat.add_comm, List.drop_succ_cons,
        List.drop_left]
    have htail : cut separators (joined separators rest) = rest := ih (by simpa using hlength)
      (fun x hx => hslots x (List.mem_cons_of_mem _ hx))
      (fun x hx => hseparators x (List.mem_cons_of_mem _ hx))
    rw [joined, cut, hpiece, hdrop, htail, String.ofList_toList]

/-- The slots of a form are read as they were filled. -/
theorem read_fill {f : Form} {slots : List String} (h : f.Fits slots) :
    f.read (f.fill slots) = slots := by
  have hinner : (f.fill slots).toList.drop f.opening.toList.length =
      joined f.separators slots ++ f.closing.toList := by
    rw [fill, String.toList_append, String.toList_append, String.toList_ofList, List.append_assoc,
      List.drop_left]
  have htake : (joined f.separators slots ++ f.closing.toList).take
      ((joined f.separators slots ++ f.closing.toList).length - f.closing.toList.length) =
        joined f.separators slots := by
    rw [List.length_append, Nat.add_sub_cancel, List.take_left]
  rw [read, hinner, htake]
  exact cut_joined h.length h.slots f.separated

/-- A filled form tells its slots. -/
theorem fill_eq_iff {f : Form} {slots slots' : List String} (h : f.Fits slots)
    (h' : f.Fits slots') : f.fill slots = f.fill slots' ↔ slots = slots' := by
  refine ⟨fun heq => ?_, congrArg f.fill⟩
  rw [← read_fill h, heq, read_fill h']

end Form

/-! ## Lines and blocks -/

def positionForm : Form :=
  ⟨"", [(':', " "), (',', " "), (' ', "(")], "m)", by decide⟩

def courseForm : Form :=
  ⟨"", [(':', " "), (',', " "), (',', " ")], "m/s", by decide⟩

def rawPositionForm : Form :=
  ⟨"Latitude: ", [('\n', "Longitude: "), ('\n', "Altitude: ")], "", by decide⟩

def rawCourseForm : Form :=
  ⟨"Speed: ", [('\n', "Direction: "), ('\n', "Climb: ")], "", by decide⟩

/-- The slots of the line of a position signal. -/
def positionSlots (s : PositionChanged) : List String :=
  [Decimal.ofInt s.timestamp.toInt, fixed 6 (FieldWord.shown s.fields 1 s.latitude),
    fixed 6 (FieldWord.shown s.fields 2 s.longitude),
    fixed 1 (FieldWord.shown s.fields 4 s.altitude)]

/-- The slots of the line of a course signal. -/
def courseSlots (s : CourseChanged) : List String :=
  [Decimal.ofInt s.timestamp.toInt, fixed 6 (FieldWord.shown s.fields 1 s.speed),
    fixed 6 (FieldWord.shown s.fields 2 s.direction), fixed 6 (FieldWord.shown s.fields 4 s.climb)]

/-- The slots of the block of a position signal. -/
def rawPositionSlots (s : PositionChanged) : List String :=
  [fixed 6 s.latitude, fixed 6 s.longitude, fixed 6 s.altitude]

/-- The slots of the block of a course signal. -/
def rawCourseSlots (s : CourseChanged) : List String :=
  [fixed 6 s.speed, fixed 6 s.direction, fixed 6 s.climb]

theorem position_eq (s : PositionChanged) :
    position (Position.ofSignal s) = positionForm.fill (positionSlots s) := by
  rw [← String.toList_inj]
  simp [position, Position.ofSignal, positionForm, positionSlots, Form.fill, Form.joined,
    FieldWord.orSentinel_flags, places, altitudePlaces]

theorem course_eq (s : CourseChanged) :
    course (Course.ofSignal s) = courseForm.fill (courseSlots s) := by
  rw [← String.toList_inj]
  simp [course, Course.ofSignal, courseForm, courseSlots, Form.fill, Form.joined,
    FieldWord.orSentinel_flags, places]

theorem rawPosition_eq (s : PositionChanged) :
    rawPosition s = rawPositionForm.fill (rawPositionSlots s) := by
  rw [← String.toList_inj]
  simp [rawPosition, rawPositionForm, rawPositionSlots, Form.fill, Form.joined, places]

theorem rawCourse_eq (s : CourseChanged) : rawCourse s = rawCourseForm.fill (rawCourseSlots s) := by
  rw [← String.toList_inj]
  simp [rawCourse, rawCourseForm, rawCourseSlots, Form.fill, Form.joined, places]

theorem fits_position (s : PositionChanged) : positionForm.Fits (positionSlots s) :=
  ⟨rfl, by simp [positionSlots, isSlot_ofInt, isSlot_fixed]⟩

theorem fits_course (s : CourseChanged) : courseForm.Fits (courseSlots s) :=
  ⟨rfl, by simp [courseSlots, isSlot_ofInt, isSlot_fixed]⟩

theorem fits_rawPosition (s : PositionChanged) : rawPositionForm.Fits (rawPositionSlots s) :=
  ⟨rfl, by simp [rawPositionSlots, isSlot_fixed]⟩

theorem fits_rawCourse (s : CourseChanged) : rawCourseForm.Fits (rawCourseSlots s) :=
  ⟨rfl, by simp [rawCourseSlots, isSlot_fixed]⟩

/-- Times are told by their texts. -/
theorem ofInt_toInt_eq_iff {n m : Int32} :
    Decimal.ofInt n.toInt = Decimal.ofInt m.toInt ↔ n = m :=
  ⟨fun h => Int32.toInt_inj.mp (ofInt_injective h), fun h => h ▸ rfl⟩

/-- **What decides a line.** From the line of a position signal its time and its three slots are
read back, where a slot shows the number of the signal if its bit of the field word is set, and
minus one if not. So two signals give the same line exactly if they agree in the time and in each of
the slots, and it is the same with courses. A block shows the three numbers, and is the same exactly
if they are shown alike. A reading of a signal keeps all of it but the other bits of the field word,
and a signal keeps all of a reading. -/
theorem fields_decide :
    (∀ s s' : PositionChanged,
      positionForm.read (position (Position.ofSignal s)) = positionSlots s ∧
      (position (Position.ofSignal s) = position (Position.ofSignal s') ↔
        s.timestamp = s'.timestamp ∧
        fixed 6 (FieldWord.shown s.fields 1 s.latitude) =
          fixed 6 (FieldWord.shown s'.fields 1 s'.latitude) ∧
        fixed 6 (FieldWord.shown s.fields 2 s.longitude) =
          fixed 6 (FieldWord.shown s'.fields 2 s'.longitude) ∧
        fixed 1 (FieldWord.shown s.fields 4 s.altitude) =
          fixed 1 (FieldWord.shown s'.fields 4 s'.altitude))) ∧
    (∀ s s' : CourseChanged,
      courseForm.read (course (Course.ofSignal s)) = courseSlots s ∧
      (course (Course.ofSignal s) = course (Course.ofSignal s') ↔
        s.timestamp = s'.timestamp ∧
        fixed 6 (FieldWord.shown s.fields 1 s.speed) =
          fixed 6 (FieldWord.shown s'.fields 1 s'.speed) ∧
        fixed 6 (FieldWord.shown s.fields 2 s.direction) =
          fixed 6 (FieldWord.shown s'.fields 2 s'.direction) ∧
        fixed 6 (FieldWord.shown s.fields 4 s.climb) =
          fixed 6 (FieldWord.shown s'.fields 4 s'.climb))) ∧
    (∀ s s' : PositionChanged,
      rawPositionForm.read (rawPosition s) = rawPositionSlots s ∧
      (rawPosition s = rawPosition s' ↔ fixed 6 s.latitude = fixed 6 s'.latitude ∧
        fixed 6 s.longitude = fixed 6 s'.longitude ∧ fixed 6 s.altitude = fixed 6 s'.altitude)) ∧
    (∀ s s' : CourseChanged,
      rawCourseForm.read (rawCourse s) = rawCourseSlots s ∧
      (rawCourse s = rawCourse s' ↔ fixed 6 s.speed = fixed 6 s'.speed ∧
        fixed 6 s.direction = fixed 6 s'.direction ∧ fixed 6 s.climb = fixed 6 s'.climb)) ∧
    ((∀ s, (Position.ofSignal s).toSignal = { s with fields := s.fields &&& 7 }) ∧
      (∀ s, (Course.ofSignal s).toSignal = { s with fields := s.fields &&& 7 }) ∧
      ∀ s, (Accuracy.ofSignal s).toSignal = { s with fields := s.fields &&& 7 }) ∧
    (∀ p : Position, Position.ofSignal p.toSignal = p) ∧
    (∀ c : Course, Course.ofSignal c.toSignal = c) ∧
    ∀ a : Accuracy, Accuracy.ofSignal a.toSignal = a := by
  refine ⟨fun s s' => ⟨?_, ?_⟩, fun s s' => ⟨?_, ?_⟩, fun s s' => ⟨?_, ?_⟩, fun s s' => ⟨?_, ?_⟩,
    ⟨Position.toSignal_ofSignal, Course.toSignal_ofSignal, Accuracy.toSignal_ofSignal⟩,
    Position.ofSignal_toSignal, Course.ofSignal_toSignal, Accuracy.ofSignal_toSignal⟩
  · rw [position_eq, Form.read_fill (fits_position s)]
  · rw [position_eq, position_eq, Form.fill_eq_iff (fits_position s) (fits_position s')]
    simp [positionSlots, ofInt_toInt_eq_iff]
  · rw [course_eq, Form.read_fill (fits_course s)]
  · rw [course_eq, course_eq, Form.fill_eq_iff (fits_course s) (fits_course s')]
    simp [courseSlots, ofInt_toInt_eq_iff]
  · rw [rawPosition_eq, Form.read_fill (fits_rawPosition s)]
  · rw [rawPosition_eq, rawPosition_eq,
      Form.fill_eq_iff (fits_rawPosition s) (fits_rawPosition s')]
    simp [rawPositionSlots]
  · rw [rawCourse_eq, Form.read_fill (fits_rawCourse s)]
  · rw [rawCourse_eq, rawCourse_eq, Form.fill_eq_iff (fits_rawCourse s) (fits_rawCourse s')]
    simp [rawCourseSlots]

end Report

end Positioning
