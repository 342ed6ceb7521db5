import Positioning.Log.Json
import Positioning.Proofs.Rendering
import Positioning.Proofs.Log.JsonGrammar

/-!
# Writing JSON

What is quoted is read back, whatever it is: each character stands for itself or is escaped, and no
escape ends the string that it stands in. Members that are written one after the other are read back
one by one, so that an object with these members is read and nothing else.

## Main definitions

- `Json.Writes` says that a text is read as a value where it stands as a member's value.
- `Json.Field` is a member together with what is written for its value.
- `Json.writtenObject` is what is written for an object.

## Main statements

- `Json.readsText_escaped`: a text is read back from its quoted form.
- `Json.spells_writtenObject_iff`: what is written for an object spells this object alone.
-/

namespace Positioning.Log.Json

/-! ## Quoted texts -/

theorem scalar?_hexDigits {n : ℕ} (h : n < 32) :
    Toml.scalar? ['0', '0', hexDigit (n / 16), hexDigit (n % 16)] = some (Char.ofNat n) := by
  revert n
  decide

/-- A character is read back from how it stands in a quoted text. -/
theorem readsText_escape (c : Char) {text cs rest : List Char} (h : ReadsText text cs rest) :
    ReadsText (c :: text) (escape c ++ cs) rest := by
  unfold escape
  split_ifs with hquote hslash hb hf hn hr ht hcontrol
  · exact .short (by rw [hquote]; rfl) h
  · exact .short (by rw [hslash]; rfl) h
  · exact .short (by rw [hb]; rfl) h
  · exact .short (by rw [hf]; rfl) h
  · exact .short (by rw [hn]; rfl) h
  · exact .short (by rw [hr]; rfl) h
  · exact .short (by rw [ht]; rfl) h
  · exact .unit (by rw [scalar?_hexDigits hcontrol, Char.ofNat_toNat]) h
  · exact .plain (by simp [isPlain, hquote, hslash]; omega) h

theorem readsText_escaped (text rest : List Char) :
    ReadsText text (text.flatMap escape ++ '"' :: rest) rest := by
  induction text with
  | nil => exact .close
  | cons c text ih =>
    rw [List.flatMap_cons, List.append_assoc]
    exact readsText_escape c ih

/-- The printed characters of ASCII. -/
def isPrinted (c : Char) : Bool :=
  32 ≤ c.toNat && c.toNat < 127

/-- A character stands in a quoted text as it is, or else its escape consists of printed ASCII. -/
theorem escape_cases (c : Char) :
    escape c = [c] ∧ isPlain c = true ∨
      isPlain c = false ∧ (escape c).all isPrinted = true := by
  have hhex : ∀ n < 32,
      ['\\', 'u', '0', '0', hexDigit (n / 16), hexDigit (n % 16)].all isPrinted = true := by decide
  unfold escape
  split_ifs with hquote hslash hb hf hn hr ht hcontrol
  iterate 7 exact .inr ⟨by subst c; decide, by decide⟩
  · exact .inr ⟨by simp [isPlain, hcontrol], hhex c.toNat hcontrol⟩
  · exact .inl ⟨rfl, by simp [isPlain, hquote, hslash]; omega⟩

theorem isPrinted_of_mem {c : Char} {cs : List Char} (h : cs.all isPrinted = true) (hc : c ∈ cs) :
    32 ≤ c.toNat ∧ c.toNat < 127 := by
  simpa [isPrinted] using List.all_eq_true.mp h c hc

theorem flatMap_escape_of_isPlain {text : List Char} (h : ∀ c ∈ text, isPlain c = true) :
    text.flatMap escape = text := by
  induction text with
  | nil => rfl
  | cons c text ih =>
    obtain ⟨hc, htext⟩ := List.forall_mem_cons.mp h
    rcases escape_cases c with ⟨hescape, -⟩ | ⟨hno, -⟩
    · rw [List.flatMap_cons, hescape, ih htext, List.singleton_append]
    · rw [hc] at hno
      cases hno

theorem le_toNat_of_isPlain {c : Char} (h : isPlain c = true) : 32 ≤ c.toNat := by
  simp only [isPlain, Bool.and_eq_true, decide_eq_true_eq] at h
  exact h.1.1

/-- No control character is left in a quoted text. -/
theorem le_toNat_of_mem_flatMap_escape {text : List Char} {d : Char}
    (h : d ∈ text.flatMap escape) : 32 ≤ d.toNat := by
  obtain ⟨c, -, hd⟩ := List.mem_flatMap.mp h
  rcases escape_cases c with ⟨hescape, hplain⟩ | ⟨-, hprinted⟩
  · rw [hescape, List.mem_singleton] at hd
    exact hd ▸ le_toNat_of_isPlain hplain
  · exact (isPrinted_of_mem hprinted hd).1

/-- There is no escape for a delete character, and none has one in it. -/
theorem filter_flatMap_escape (text : List Char) :
    (text.flatMap escape).filter (· ≠ '\x7f') = (text.filter (· ≠ '\x7f')).flatMap escape := by
  induction text with
  | nil => rfl
  | cons c text ih =>
    rw [List.flatMap_cons, List.filter_append, ih]
    by_cases hdelete : c = '\x7f'
    · subst hdelete
      rfl
    · have hkept : (escape c).filter (· ≠ '\x7f') = escape c := by
        refine List.filter_eq_self.mpr fun d hd => ?_
        rcases escape_cases c with ⟨hescape, -⟩ | ⟨-, hprinted⟩
        · rw [hescape, List.mem_singleton] at hd
          simpa [hd] using hdelete
        · have hlt := (isPrinted_of_mem hprinted hd).2
          simp only [ne_eq, decide_eq_true_eq]
          rintro rfl
          exact absurd hlt (by decide)
      rw [hkept, List.filter_cons_of_pos (by simpa using hdelete), List.flatMap_cons]

/-! ## Objects -/

/-- A text that is read as a value where a comma or a closing brace follows. -/
def Writes (text : String) (v : Value) : Prop :=
  ∀ c ∈ [',', '\x7d'], ∀ rest, Reads v (text.toList ++ c :: rest) (c :: rest)

theorem writes_quote (text : String) : Writes (quote text) (.string text) := by
  intro c _ rest
  have hread := Reads.string (readsText_escaped text.toList (c :: rest))
  rw [String.ofList_toList] at hread
  simpa [quote] using hread

theorem isNumeral_digits (n : ℕ) : IsNumeral (Decimal.digits n) := by
  have hzero : (Decimal.digits n).head? = some '0' → Decimal.digits n = ['0'] := fun h => by
    rw [Decimal.eq_zero_of_head?_digits h, Decimal.digits, if_pos (by decide)]
    rfl
  simpa using IsNumeral.intro (.inl rfl) ⟨Decimal.digits_ne_nil n, Decimal.isDigit_of_mem_digits n⟩
    hzero .none .none

/-- A numeral is read up to a character that numerals do not hold. -/
theorem reads_numeral {d c : Char} {ds : List Char} (h : IsNumeral (d :: ds))
    (hnumeric : ∀ x ∈ d :: ds, isNumeric x = true) (hstop : isNumeric c = false)
    (rest : List Char) :
    Reads (.number (String.ofList (d :: ds))) (d :: (ds ++ c :: rest)) (c :: rest) := by
  obtain ⟨hd, hds⟩ := List.forall_mem_cons.mp hnumeric
  have htake : (ds ++ c :: rest).takeWhile isNumeric = ds := by
    rw [List.takeWhile_append_of_pos hds, List.takeWhile_cons_of_neg (by simp [hstop]),
      List.append_nil]
  have hdrop : (ds ++ c :: rest).dropWhile isNumeric = c :: rest := by
    rw [List.dropWhile_append_of_pos hds, List.dropWhile_cons_of_neg (by simp [hstop])]
  have hread : Reads (.number (String.ofList (d :: (ds ++ c :: rest).takeWhile isNumeric)))
      (d :: (ds ++ c :: rest)) ((ds ++ c :: rest).dropWhile isNumeric) :=
    .number hd (by rwa [htake])
  rwa [htake, hdrop] at hread

theorem writes_ofNat (n : ℕ) : Writes (Decimal.ofNat n) (.number (Decimal.ofNat n)) := by
  intro c hc rest
  have hstop : isNumeric c = false := by
    rcases List.mem_pair.mp hc with rfl | rfl <;> decide
  have hnumeral := isNumeral_digits n
  have hnumeric : ∀ x ∈ Decimal.digits n, isNumeric x = true := fun x hx => by
    simp [isNumeric, Decimal.isDigit_of_mem_digits n x hx]
  rw [Decimal.ofNat, String.toList_ofList]
  cases hcons : Decimal.digits n with
  | nil => exact absurd hcons (Decimal.digits_ne_nil n)
  | cons d ds =>
    rw [hcons] at hnumeral hnumeric
    exact reads_numeral hnumeral hnumeric hstop rest

/-- A value begins with no white space. -/
theorem Reads.skip_eq {v : Value} {cs rest : List Char} (h : Reads v cs rest) : skip cs = cs := by
  cases h with
  | @number c cs hc =>
    have hwhite : isWhite c = false := by
      cases hwhite : isWhite c with
      | false => rfl
      | true =>
        simp only [isWhite, Bool.or_eq_true, decide_eq_true_eq] at hwhite
        rcases hwhite with ((rfl | rfl) | rfl) | rfl <;> cases hc
    exact List.dropWhile_cons_of_neg (by simp [hwhite])
  | _ => rfl

/-- A key, what is written for its value, and the value. -/
structure Field where
  key : String
  text : String
  value : Value
  writes : Writes text value

namespace Field

def quoted (key text : String) : Field :=
  ⟨key, quote text, .string text, writes_quote text⟩

def numeric (key : String) (n : ℕ) : Field :=
  ⟨key, Decimal.ofNat n, .number (Decimal.ofNat n), writes_ofNat n⟩

def member (f : Field) : String × Value :=
  (f.key, f.value)

def written (f : Field) : String :=
  quote f.key ++ ":" ++ f.text

theorem readsMember (f : Field) {c : Char} (hc : c ∈ [',', '\x7d']) (rest : List Char) :
    ReadsMember f.member (f.written.toList ++ c :: rest) (c :: rest) := by
  have hv := f.writes c hc rest
  have hkey := readsText_escaped f.key.toList (':' :: (f.text.toList ++ c :: rest))
  have hmember : ReadsMember (String.ofList f.key.toList, f.value)
      ('"' :: (f.key.toList.flatMap escape ++ '"' :: ':' :: (f.text.toList ++ c :: rest)))
      (c :: rest) :=
    .intro rfl hkey rfl (by rwa [hv.skip_eq])
  rw [String.ofList_toList] at hmember
  simpa [member, written, quote] using hmember

end Field

/-- What is written for an object with some fields. -/
def writtenObject (fs : List Field) : String :=
  "\x7b" ++ ", ".intercalate (fs.map Field.written) ++ "\x7d"

theorem ReadsMember.blank {m : String × Value} {cs rest : List Char} (h : ReadsMember m cs rest) :
    ReadsMember m (' ' :: cs) rest := by
  have hskip : skip (' ' :: cs) = skip cs := List.dropWhile_cons_of_pos rfl
  cases h with
  | intro hquote hkey hcolon hv => exact .intro (hskip.trans hquote) hkey hcolon hv

theorem ReadsMembers.blank {ms : List (String × Value)} {cs rest : List Char}
    (h : ReadsMembers ms cs rest) : ReadsMembers ms (' ' :: cs) rest := by
  cases h with
  | last hm hend => exact .last hm.blank hend
  | more hm hsep hms => exact .more hm.blank hsep hms

/-- Members that are joined are read one by one. -/
theorem readsMembers_intercalate {fs : List Field} (hne : fs ≠ []) (rest : List Char) :
    ReadsMembers (fs.map Field.member)
      ((", ".intercalate (fs.map Field.written)).toList ++ '\x7d' :: rest) rest := by
  induction fs with
  | nil => exact absurd rfl hne
  | cons f fs ih =>
    cases fs with
    | nil => simpa using ReadsMembers.last (f.readsMember (c := '\x7d') (by simp) rest) rfl
    | cons g fs =>
      have hsplit : (", ".intercalate ((f :: g :: fs).map Field.written)).toList =
          f.written.toList ++ ',' :: ' ' ::
            (", ".intercalate ((g :: fs).map Field.written)).toList := by
        simp [String.intercalate_cons_cons]
      rw [hsplit, List.append_assoc]
      exact .more (f.readsMember (by simp) _) rfl (ih (List.cons_ne_nil _ _)).blank

/-- What is written for an object spells this object alone. -/
theorem spells_writtenObject_iff {fs : List Field} (hne : fs ≠ []) (v : Value) :
    Spells (writtenObject fs) v ↔ v = .object (fs.map Field.member) := by
  have hspells : Spells (writtenObject fs) (.object (fs.map Field.member)) := by
    have hread := Reads.object (readsMembers_intercalate hne [])
    refine ⟨[], ?_, rfl⟩
    simpa [writtenObject, skip, isWhite] using hread
  exact ⟨fun h => h.unique hspells, fun h => h ▸ hspells⟩

end Positioning.Log.Json
