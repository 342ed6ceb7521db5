import Positioning.Proofs.Toml.OneLine
import Positioning.Settings

/-!
# The lines of a configuration

A configuration gives some of the four settings, one on each line, with the key before the value and
blank lines anywhere. Its lines are read one after another, and each writes the value that it gives
under its key, as long as nothing stands there yet.

## Main definitions

- `Settings.Given` is a setting that a configuration may give, and `Settings.Given.Written` says how
  its value is written.
- `Settings.Spells` relates the settings that are given to the lines that give them.
- `Settings.Given.write` is what the line of a setting does to a document.

## Main statements

- `Settings.document?_text`: the document that the lines make.
- `Settings.document?_insert`: how far it has come when another line is met.
-/

namespace Positioning.Settings

open Toml

/-! ## Settings that are given -/

/-- A setting that a configuration may give. -/
inductive Given where
  | bus (name : String)
  | service (name : String)
  | callTimeout (n : Int)
  | processTimeout (n : Int)

namespace Given

/-- The key of a setting. -/
def key : Given → String
  | bus _ => "bus"
  | service _ => "service"
  | callTimeout _ => "call_timeout_ms"
  | processTimeout _ => "process_timeout_ms"

/-- How the value of a setting may be written: a text between double quotes on one line, with
escapes, and a number in decimal digits. -/
inductive Written : Given → String → Prop where
  | bus {name : String} {body : List Char} (h : Basic body name.toList) :
      Written (.bus name) (String.ofList ('"' :: (body ++ ['"'])))
  | service {name : String} {body : List Char} (h : Basic body name.toList) :
      Written (.service name) (String.ofList ('"' :: (body ++ ['"'])))
  | callTimeout {n : Int} {digits : List Char} (h : Numeral digits n) :
      Written (.callTimeout n) (String.ofList digits)
  | processTimeout {n : Int} {digits : List Char} (h : Numeral digits n) :
      Written (.processTimeout n) (String.ofList digits)

/-- The value of a number, if it has 64 bits. -/
def integerValue? (n : Int) : Option Value :=
  if least ≤ n ∧ n ≤ greatest then some (.integer n) else none

/-- The value of a setting in a document. -/
def value? : Given → Option Value
  | bus name => some (.string name)
  | service name => some (.string name)
  | callTimeout n => integerValue? n
  | processTimeout n => integerValue? n

/-- What the line of a setting does to a document. -/
def write (d : Document) (g : Given) : Option Document :=
  g.value?.bind (d.define [] [g.key])

end Given

/-- A line with a key and its value. -/
def line (key value : String) : String :=
  key ++ " = " ++ value

/-- The lines that give settings, one on each line, with blank lines between them. -/
inductive Spells : List Given → List String → Prop where
  | nil : Spells [] []
  | blank {given : List Given} {lines : List String} (h : Spells given lines) :
      Spells given ("" :: lines)
  | setting {g : Given} {value : String} {given : List Given} {lines : List String}
      (hvalue : g.Written value) (h : Spells given lines) :
      Spells (g :: given) (line g.key value :: lines)

/-- The text with given lines. -/
def text (lines : List String) : String :=
  "\n".intercalate lines

/-! ## Values -/

section Values

variable {g : Given} {value : String}

theorem Given.key_mem_keys (g : Given) : g.key ∈ keys := by
  cases g <;> simp [Given.key, keys]

theorem Given.isBareKey (g : Given) : IsBareKey g.key := by
  have hkeys : ∀ key ∈ keys, key.toList ≠ [] ∧ key.toList.all isBare = true := by decide
  obtain ⟨hne, hall⟩ := hkeys _ g.key_mem_keys
  exact isBareKey_of_all hne hall

/-- A string is read as its text, with what stands behind its line left. -/
theorem value?_string {name : String} {body : List Char} (h : Basic body name.toList) (fuel : Nat)
    (ls : List (List Char)) :
    Toml.value? (fuel + 1) ('"' :: (body ++ ['"']) ++ behind ls) =
      some (.string name, behind ls) := by
  have hquoted := quoted?_of_basic h (head?_behind (by decide : '"' ≠ '\n') ls)
  rw [String.ofList_toList] at hquoted
  refine value?_succ_iff.mpr (.string (quoted?_iff.mp ?_))
  simpa using hquoted

theorem isNumberChar_of_numeral {digits : List Char} {n : Int} (h : Numeral digits n) :
    ∀ c ∈ digits, isNumberChar c = true := by
  have hdigit : ∀ m : Nat, ∀ c ∈ Decimal.digits m, isNumberChar c = true := by
    intro m c hc
    simp [isNumberChar, isBare, Char.isAlphanum, Decimal.isDigit_of_mem_digits m c hc]
  cases h with
  | plain m => exact hdigit m
  | minus m => exact List.forall_mem_cons.mpr ⟨by decide, hdigit m⟩

theorem exists_cons_of_numeral {digits : List Char} {n : Int} (h : Numeral digits n) :
    ∃ c cs, digits = c :: cs ∧ isNumberChar c = true := by
  have hne : digits ≠ [] := by
    cases h with
    | plain m => exact Decimal.digits_ne_nil m
    | minus m => exact List.cons_ne_nil _ _
  obtain ⟨c, cs, rfl⟩ := List.exists_cons_of_ne_nil hne
  exact ⟨c, cs, rfl, isNumberChar_of_numeral h c (List.mem_cons_self ..)⟩

/-- Digits are read as their number, if it has 64 bits. -/
theorem value?_numeral {digits : List Char} {n : Int} (h : Numeral digits n) (fuel : Nat)
    (ls : List (List Char)) :
    Toml.value? (fuel + 1) (digits ++ behind ls) =
      (Given.integerValue? n).map fun v => (v, behind ls) := by
  have hinteger := integer?_of_numeral h
  have hsplit := takeWhile_append_behind (by decide) (isNumberChar_of_numeral h) ls
  obtain ⟨c, cs, rfl, hc⟩ := exists_cons_of_numeral h
  rw [List.cons_append] at hsplit ⊢
  rw [value?_number hc, hsplit.1, hsplit.2, hinteger, Given.integerValue?]
  split <;> rfl

theorem dropBlank_of_numeral {digits : List Char} {n : Int} (h : Numeral digits n)
    (rest : List Char) : dropBlank (digits ++ rest) = digits ++ rest := by
  obtain ⟨c, cs, rfl, hc⟩ := exists_cons_of_numeral h
  rw [List.cons_append, dropBlank_cons (isBlank_eq_false hc (by decide) (by decide))]

/-- The value of a setting is read as it is written. -/
theorem value?_written (h : g.Written value) (fuel : Nat) (ls : List (List Char)) :
    Toml.value? (fuel + 1) (dropBlank (value.toList ++ behind ls)) =
      g.value?.map fun v => (v, behind ls) := by
  have hquote : ∀ cs, dropBlank ('"' :: cs) = '"' :: cs := dropBlank_cons (by decide)
  cases h with
  | bus h | service h =>
    rw [String.toList_ofList, List.cons_append, hquote]
    exact value?_string h fuel ls
  | callTimeout h | processTimeout h =>
    rw [String.toList_ofList, dropBlank_of_numeral h]
    exact value?_numeral h fuel ls

end Values

/-! ## Lines -/

section Lines

variable {given : List Given} {lines : List String}

theorem toList_line (key value : String) :
    (line key value).toList = key.toList ++ ' ' :: '=' :: ' ' :: value.toList := by
  simp [line]

/-- The line of a setting writes what it gives. -/
theorem readLines_setting {g : Given} {value : String} (h : g.Written value) (fuel : Nat)
    (d : Document) (ls : List (List Char)) :
    readLines (fuel + 2) d [] (['\n'].intercalate ((line g.key value).toList :: ls)) =
      (g.write d).bind fun d => readLines (fuel + 1) d [] (['\n'].intercalate ls) := by
  rw [intercalate_cons, toList_line, List.append_assoc, List.cons_append, List.cons_append,
    List.cons_append, readLines_key g.isBareKey, value?_written h, Given.write]
  cases g.value? with
  | none => rfl
  | some v => simp [afterLine?_behind]

/-- The lines of settings write what they give, one after another. -/
theorem readLines_spells (h : Spells given lines) (fuel : Nat) (d : Document)
    (ls : List (List Char)) :
    readLines (lines.length + fuel + 1) d [] (['\n'].intercalate (lines.map String.toList ++ ls)) =
      (given.foldlM Given.write d).bind fun d =>
        readLines (fuel + 1) d [] (['\n'].intercalate ls) := by
  -- Each line takes one off the fuel, and one is left for the end of the text.
  induction h generalizing d with
  | nil => simp
  | @blank given lines h ih =>
    have hfuel : ("" :: lines).length + fuel + 1 = lines.length + fuel + 2 := by
      simp only [List.length_cons]
      omega
    rw [hfuel, List.map_cons, List.cons_append, String.toList_empty, readLines_blank, ih]
  | @setting g value given lines hvalue h ih =>
    have hfuel : (line g.key value :: lines).length + fuel + 1 = lines.length + fuel + 2 := by
      simp only [List.length_cons]
      omega
    rw [hfuel, List.map_cons, List.cons_append, readLines_setting hvalue, List.foldlM_cons,
      Option.bind_eq_bind, Option.bind_assoc]
    exact congrArg _ (funext ih)

end Lines

/-! ## Texts -/

section Texts

variable {given : List Given} {lines before : List String}

theorem toList_text (lines : List String) :
    (text lines).toList = ['\n'].intercalate (lines.map String.toList) := by
  rw [text, String.toList_intercalate]
  rfl

theorem not_mem_written {g : Given} {value : String} (h : g.Written value) :
    '\r' ∉ value.toList := by
  have hstring : ∀ {name : String} {body : List Char}, Basic body name.toList →
      '\r' ∉ (String.ofList ('"' :: (body ++ ['"']))).toList := by
    intro name body hbody
    have hmem : '\r' ∉ body := hbody.not_mem (by decide) (by decide) (by decide)
    simp [hmem]
  have hnumber : ∀ {n : Int} {digits : List Char}, Numeral digits n →
      '\r' ∉ (String.ofList digits).toList := by
    intro n digits hdigits hmem
    rw [String.toList_ofList] at hmem
    exact absurd (isNumberChar_of_numeral hdigits _ hmem) (by decide)
  cases h with
  | bus h | service h => exact hstring h
  | callTimeout h | processTimeout h => exact hnumber h

theorem not_mem_line {key value : String} (hkey : IsBareKey key) (hvalue : '\r' ∉ value.toList) :
    '\r' ∉ (line key value).toList := by
  have hbare : '\r' ∉ key.toList := fun hmem => absurd (hkey.bare _ hmem) (by decide)
  simp [toList_line, hbare, hvalue]

/-- No line holds a carriage return. -/
theorem not_mem_of_spells (h : Spells given lines) :
    ∀ l ∈ lines.map String.toList, '\r' ∉ l := by
  induction h with
  | nil => simp
  | blank _ ih => simpa using ih
  | @setting g _ _ _ hvalue _ ih =>
    exact List.forall_mem_cons.mpr ⟨not_mem_line g.isBareKey (not_mem_written hvalue), ih⟩

theorem isBare_of_line {key : String} (hkey : IsBareKey key) (value : String) (c : Char)
    (hc : (line key value).toList.head? = some c) : isBare c = true := by
  rw [toList_line] at hc
  exact hkey.head? _ hc

/-- The lines of settings begin with no byte order mark. -/
theorem dropMark_spells (h : Spells given before) {ls : List (List Char)}
    (hls : dropMark (['\n'].intercalate ls) = ['\n'].intercalate ls) :
    dropMark (['\n'].intercalate (before.map String.toList ++ ls)) =
      ['\n'].intercalate (before.map String.toList ++ ls) := by
  cases h with
  | nil => exact hls
  | blank => exact dropMark_intercalate (by simp) _
  | @setting g => exact dropMark_intercalate (isBare_of_line g.isBareKey _) _

/-- The lines of settings make the document into which they write what they give. -/
theorem document?_text (h : Spells given lines) :
    document? (text lines) = given.foldlM Given.write .empty := by
  have hmark : dropMark (['\n'].intercalate (lines.map String.toList ++ [])) = _ :=
    dropMark_spells h rfl
  have hreturn : '\r' ∉ (text lines).toList := by
    rw [toList_text]
    exact not_mem_intercalate (by decide) (not_mem_of_spells h)
  obtain ⟨fuel, hfuel⟩ := Nat.exists_eq_add_of_le (length_le_intercalate (lines.map String.toList))
  have hlines := readLines_spells h fuel .empty []
  rw [List.length_map] at hfuel
  rw [← hfuel, List.append_nil] at hlines
  rw [List.append_nil] at hmark
  rw [document?, toList_text, hmark, ← toList_text, unifyLineEnds_eq hreturn, toList_text]
  refine hlines.trans ?_
  cases given.foldlM Given.write .empty <;> rfl

theorem unifyLineEnds_insert (h : Spells given before) {key : String} (hkey : IsBareKey key)
    (value : String) (after : List (List Char)) :
    unifyLineEnds
        (['\n'].intercalate (before.map String.toList ++ (line key value).toList :: after)) =
      ['\n'].intercalate (before.map String.toList ++
        [key.toList ++ ' ' :: '=' :: ' ' :: unifyLineEnds (value.toList ++ behind after)]) := by
  have hbefore : '\r' ∉ (before.map String.toList).flatMap (· ++ ['\n']) := by
    simpa using not_mem_of_spells h
  have hkey : '\r' ∉ key.toList ++ [' ', '=', ' '] := by
    have hbare : '\r' ∉ key.toList := fun hmem => absurd (hkey.bare _ hmem) (by decide)
    simp [hbare]
  have hline : (line key value).toList ++ behind after =
      (key.toList ++ [' ', '=', ' ']) ++ (value.toList ++ behind after) := by
    simp [toList_line]
  rw [intercalate_append_cons, intercalate_append_cons, unifyLineEnds_append hbefore, hline,
    unifyLineEnds_append hkey]
  simp [behind]

/-- Another line is met with the document that the lines before it make. -/
theorem document?_insert (h : Spells given before) {key : String} (hkey : IsBareKey key)
    (value : String) (after : List String) :
    ∃ n, (key.toList ++ ' ' :: '=' :: ' ' ::
        unifyLineEnds (value.toList ++ behind (after.map String.toList))).length ≤ n ∧
      document? (text (before ++ line key value :: after)) =
        (given.foldlM Given.write .empty).bind fun d => readLines (n + 2) d []
          (key.toList ++ ' ' :: '=' :: ' ' ::
            unifyLineEnds (value.toList ++ behind (after.map String.toList))) := by
  have hmark := dropMark_spells h
    (dropMark_intercalate (isBare_of_line hkey value) (after.map String.toList))
  have hunified := unifyLineEnds_insert h hkey value (after.map String.toList)
  generalize hrest : key.toList ++ ' ' :: '=' :: ' ' ::
    unifyLineEnds (value.toList ++ behind (after.map String.toList)) = rest at hunified ⊢
  obtain ⟨extra, hextra⟩ :=
    Nat.exists_eq_add_of_le (length_le_flatMap (before.map String.toList))
  have hlength : (['\n'].intercalate (before.map String.toList ++ [rest])).length + 2 =
      before.length + (extra + rest.length + 1) + 1 := by
    rw [intercalate_append_cons, List.length_append, hextra]
    simp only [List.length_map, List.length_append, behind, List.length_nil]
    omega
  refine ⟨extra + rest.length, Nat.le_add_left .., ?_⟩
  rw [document?, toList_text, List.map_append, List.map_cons, hmark, hunified, hlength,
    readLines_spells h, List.intercalate_singleton]

/-- The document of the line of a key alone. -/
theorem document?_line {key value : String} (hkey : IsBareKey key) (hvalue : '\r' ∉ value.toList) :
    document? (line key value) = readLines ((line key value).toList.length + 2) .empty []
      (key.toList ++ ' ' :: '=' :: ' ' :: value.toList) := by
  have hmark := dropMark_intercalate (isBare_of_line hkey value) []
  rw [List.intercalate_singleton] at hmark
  rw [document?, hmark, unifyLineEnds_eq (not_mem_line hkey hvalue)]
  exact congrArg _ (toList_line key value)

/-- No line begins with a closing bracket. -/
theorem head?_dropGap (h : Spells given lines) :
    (dropGap false (['\n'].intercalate (lines.map String.toList))).head? ≠ some ']' := by
  induction h with
  | nil => simp [dropGap]
  | @blank given lines h ih =>
    rw [List.map_cons, String.toList_empty, intercalate_cons, List.nil_append]
    obtain ⟨hbehind, -⟩ | hbehind := behind_eq (lines.map String.toList)
    · simp [hbehind, dropGap]
    · rw [hbehind]
      exact ih
  | @setting g value given lines hvalue h ih =>
    obtain ⟨c, chars, hkey, hbare⟩ := g.isBareKey.exists_cons
    have hne : c ≠ ']' := ne_of_isBare hbare (by decide)
    rw [List.map_cons, intercalate_cons, toList_line, hkey, List.cons_append, List.cons_append,
      dropGap_of_isBare hbare]
    simpa using hne

end Texts

end Positioning.Settings
