import Mathlib.Data.List.Basic
import Positioning.Toml.Reader

/-!
# Reading line by line

A line with a bare key is read as one step: its value is read, nothing else may be left of the line,
and the value is written where nothing stands yet. Nothing that is written is ever taken away again,
so a key stays in the document whatever the lines behind it hold.

## Main definitions

- `Toml.IsBareKey` says which texts are keys without quotes.
- `Toml.behind` is what stands behind a line.
- `Toml.Document.Grows` says that nothing is taken away.
- `Toml.Document.LineStep` lists what a line may do to a document.

## Main statements

- `Toml.readLines_key`: what the line of a bare key does.
- `Toml.readLines_blank`: a blank line does nothing.
- `Toml.Document.Grows.readLines`: the document only grows.
-/

namespace Positioning.Toml

/-! ## Lines -/

/-- What stands behind a line: the end of the text, or a line end and the other lines. -/
def behind : List (List Char) → List Char
  | [] => []
  | l :: ls => '\n' :: ['\n'].intercalate (l :: ls)

theorem intercalate_cons (l : List Char) (ls : List (List Char)) :
    ['\n'].intercalate (l :: ls) = l ++ behind ls := by
  cases ls with
  | nil => simp [behind]
  | cons l' ls => simp [behind]

/-- Behind a line is the end of the text, or a line end. -/
theorem behind_eq (ls : List (List Char)) :
    behind ls = [] ∧ ls = [] ∨ behind ls = '\n' :: ['\n'].intercalate ls := by
  cases ls with
  | nil => exact .inl ⟨rfl, rfl⟩
  | cons l ls => exact .inr rfl

/-- A line among others: the lines before it with their ends, the line, and what is behind it. -/
theorem intercalate_append_cons (ls : List (List Char)) (l : List Char) (ls' : List (List Char)) :
    ['\n'].intercalate (ls ++ l :: ls') = ls.flatMap (· ++ ['\n']) ++ (l ++ behind ls') := by
  induction ls with
  | nil => exact intercalate_cons l ls'
  | cons l₁ ls ih =>
    rw [List.cons_append, intercalate_cons, List.flatMap_cons, List.append_assoc, ← ih]
    cases ls with
    | nil => simp [behind]
    | cons l₂ ls => simp [behind]

theorem length_le_intercalate (ls : List (List Char)) :
    ls.length ≤ (['\n'].intercalate ls).length + 1 := by
  induction ls with
  | nil => exact Nat.zero_le _
  | cons l ls ih =>
    rw [intercalate_cons]
    cases ls with
    | nil => simp
    | cons l' ls =>
      simp only [behind, List.length_append, List.length_cons] at ih ⊢
      omega

theorem length_le_flatMap (ls : List (List Char)) :
    ls.length ≤ (ls.flatMap (· ++ ['\n'])).length := by
  induction ls with
  | nil => exact Nat.zero_le _
  | cons l ls ih =>
    rw [List.flatMap_cons, List.length_append, List.length_append, List.length_cons]
    simp only [List.length_cons, List.length_nil]
    omega

/-- A character of the text stands in one of its lines or ends one. -/
theorem not_mem_intercalate {c : Char} (hc : c ≠ '\n') {ls : List (List Char)}
    (h : ∀ l ∈ ls, c ∉ l) : c ∉ ['\n'].intercalate ls := by
  induction ls with
  | nil => simp
  | cons l ls ih =>
    obtain ⟨hl, hls⟩ := List.forall_mem_cons.mp h
    have hrest := ih hls
    rw [intercalate_cons, List.mem_append, not_or]
    refine ⟨hl, ?_⟩
    cases ls with
    | nil => simp [behind]
    | cons l' ls => exact List.not_mem_cons_of_ne_of_not_mem hc hrest

theorem not_mem_behind {c : Char} (hc : c ≠ '\n') {ls : List (List Char)} (h : ∀ l ∈ ls, c ∉ l) :
    c ∉ behind ls := by
  obtain ⟨hbehind, -⟩ | hbehind := behind_eq ls
  · simp [hbehind]
  · rw [hbehind]
    exact List.not_mem_cons_of_ne_of_not_mem hc (not_mem_intercalate hc h)

/-- Behind a line the other lines are read. -/
theorem afterLine?_behind (ls : List (List Char)) :
    afterLine? (behind ls) = some (['\n'].intercalate ls) := by
  cases ls with
  | nil => rfl
  | cons l ls => rfl

theorem head?_behind {c : Char} (hc : c ≠ '\n') (ls : List (List Char)) :
    (behind ls).head? ≠ some c := by
  cases ls with
  | nil => simp [behind]
  | cons l ls => simpa [behind] using hc.symm

/-- Characters without a line end among them are followed by what stands behind the line. -/
theorem takeWhile_append_behind {p : Char → Bool} (hp : p '\n' = false) {cs : List Char}
    (hcs : ∀ c ∈ cs, p c = true) (ls : List (List Char)) :
    (cs ++ behind ls).takeWhile p = cs ∧ (cs ++ behind ls).dropWhile p = behind ls := by
  rw [List.takeWhile_append_of_pos hcs, List.dropWhile_append_of_pos hcs]
  cases ls with
  | nil => simp [behind]
  | cons l ls => simp [behind, hp]

theorem unifyLineEnds_cons {c : Char} (hc : c ≠ '\r') (cs : List Char) :
    unifyLineEnds (c :: cs) = c :: unifyLineEnds cs := by
  rw [unifyLineEnds.eq_def]
  simp [hc]

/-- Without carriage returns the line ends are as they have to be. -/
theorem unifyLineEnds_append {cs : List Char} (h : '\r' ∉ cs) (rest : List Char) :
    unifyLineEnds (cs ++ rest) = cs ++ unifyLineEnds rest := by
  induction cs with
  | nil => rfl
  | cons c cs ih =>
    have hc : c ≠ '\r' := (List.ne_of_not_mem_cons h).symm
    rw [List.cons_append, unifyLineEnds_cons hc, ih (List.not_mem_of_not_mem_cons h),
      List.cons_append]

theorem unifyLineEnds_eq {cs : List Char} (h : '\r' ∉ cs) : unifyLineEnds cs = cs := by
  simpa [unifyLineEnds] using unifyLineEnds_append h []

/-- A text that begins with a blank line or a bare key has no byte order mark. -/
theorem dropMark_intercalate {l : List Char} (h : ∀ c, l.head? = some c → isBare c = true)
    (ls : List (List Char)) :
    dropMark (['\n'].intercalate (l :: ls)) = ['\n'].intercalate (l :: ls) := by
  rw [intercalate_cons, dropMark.eq_def]
  split
  case h_1 rest heq =>
    cases l with
    | nil =>
      rw [List.nil_append] at heq
      exact absurd (by rw [heq]; rfl) (head?_behind (by decide : '\ufeff' ≠ '\n') ls)
    | cons c l =>
      rw [(List.cons.inj heq).1] at h
      exact absurd (h _ rfl) (by decide)
  case h_2 => rfl

/-! ## Bare keys -/

/-- A key without quotes: letters, digits, underscores and dashes, at least one of them. -/
def IsBareKey (key : String) : Prop :=
  key.toList ≠ [] ∧ ∀ c ∈ key.toList, c.isAlphanum = true ∨ c = '_' ∨ c = '-'

theorem IsBareKey.bare {key : String} (h : IsBareKey key) : ∀ c ∈ key.toList, isBare c = true := by
  intro c hc
  simpa [Toml.isBare, or_assoc] using h.2 c hc

theorem isBareKey_of_all {key : String} (hne : key.toList ≠ [])
    (h : key.toList.all Toml.isBare = true) : IsBareKey key :=
  ⟨hne, fun c hc => by simpa [Toml.isBare, or_assoc] using List.all_eq_true.mp h c hc⟩

theorem IsBareKey.exists_cons {key : String} (h : IsBareKey key) :
    ∃ c chars, key.toList = c :: chars ∧ Toml.isBare c = true := by
  obtain ⟨c, chars, hkey⟩ := List.exists_cons_of_ne_nil h.1
  exact ⟨c, chars, hkey, h.bare c (by simp [hkey])⟩

theorem IsBareKey.head? {key : String} (h : IsBareKey key) (rest : List Char) {c : Char}
    (hc : (key.toList ++ rest).head? = some c) : isBare c = true := by
  obtain ⟨d, chars, hkey, hbare⟩ := h.exists_cons
  rw [hkey] at hc
  cases hc
  exact hbare

theorem ne_of_isBare {c d : Char} (hc : isBare c = true) (hd : isBare d = false) : c ≠ d := by
  rintro rfl
  rw [hc] at hd
  cases hd

theorem dropBlank_cons {c : Char} (hc : isBlank c = false) (cs : List Char) :
    dropBlank (c :: cs) = c :: cs :=
  List.dropWhile_cons_of_neg (by simp [hc])

/-- What is no space and no tab is no blank. -/
theorem isBlank_eq_false {p : Char → Bool} {c : Char} (h : p c = true) (hspace : p ' ' = false)
    (htab : p '\t' = false) : isBlank c = false := by
  cases hc : isBlank c with
  | false => rfl
  | true =>
    simp only [isBlank, Bool.or_eq_true, decide_eq_true_eq] at hc
    obtain rfl | rfl := hc
    · rw [h] at hspace
      cases hspace
    · rw [h] at htab
      cases htab

theorem isBlank_of_isBare {c : Char} (h : isBare c = true) : isBlank c = false :=
  isBlank_eq_false h (by decide) (by decide)

/-- No gap stands before a bare key. -/
theorem dropGap_of_isBare {c : Char} (h : isBare c = true) (cs : List Char) :
    dropGap false (c :: cs) = c :: cs := by
  have hend : c ≠ '\n' := ne_of_isBare h (by decide)
  have hcomment : c ≠ '#' := ne_of_isBare h (by decide)
  simp [dropGap, isBlank_of_isBare h, hend, hcomment]

/-- A bare key ends at the first character that cannot belong to it. -/
theorem simpleKey?_bare {key : String} (h : IsBareKey key) (cs : List Char) :
    simpleKey? (key.toList ++ ' ' :: cs) = some (key, ' ' :: cs) := by
  obtain ⟨c, chars, hkey, hbare⟩ := h.exists_cons
  have hquote : c ≠ '"' := ne_of_isBare hbare (by decide)
  have hapostrophe : c ≠ '\'' := ne_of_isBare hbare (by decide)
  have hstop : isBare ' ' = false := by decide
  rw [simpleKey?.eq_def]
  split
  case h_1 heq => simp [hkey, hquote] at heq
  case h_2 heq => simp [hkey, hapostrophe] at heq
  case h_3 =>
    rw [List.takeWhile_append_of_pos h.bare, List.dropWhile_append_of_pos h.bare]
    simp [hstop, h.1]

theorem key?_bare {key : String} (h : IsBareKey key) (fuel : Nat) (cs : List Char) :
    key? (fuel + 1) (key.toList ++ ' ' :: '=' :: cs) = some ([key], '=' :: cs) := by
  have hdrop : dropBlank (key.toList ++ ' ' :: '=' :: cs) = key.toList ++ ' ' :: '=' :: cs := by
    obtain ⟨c, chars, hkey, hbare⟩ := h.exists_cons
    rw [hkey, List.cons_append, dropBlank_cons (isBlank_of_isBare hbare)]
  have hequals : dropBlank (' ' :: '=' :: cs) = '=' :: cs := rfl
  simp [key?, hdrop, simpleKey?_bare h, hequals]

/-! ## Documents -/

namespace Document

variable {d d' d'' : Document}

/-- Nothing is taken away from a document. -/
def Grows (d d' : Document) : Prop :=
  ∀ path, (d.get? path).isSome = true → (d'.get? path).isSome = true

theorem Grows.refl (d : Document) : Grows d d := fun _ h => h

theorem Grows.trans (h : Grows d d') (h' : Grows d' d'') : Grows d d'' := fun path hpath =>
  h' path (h path hpath)

theorem Grows.put (d : Document) (path : Path) (e : Entry) : Grows d (d.put path e) := by
  intro path' h
  rw [Table.get?_put]
  split
  · rfl
  · exact h

theorem Grows.foldlM {f : Document → Path → Option Document}
    (hf : ∀ {d d' : Document} {path : Path}, f d path = some d' → Grows d d') {paths : List Path}
    (h : paths.foldlM f d = some d') : Grows d d' := by
  induction paths generalizing d with
  | nil =>
    cases h
    exact .refl _
  | cons path paths ih =>
    rw [List.foldlM_cons, Option.bind_eq_bind, Option.bind_eq_some_iff] at h
    obtain ⟨d₁, hfirst, hrest⟩ := h
    exact (hf hfirst).trans (ih hrest)

theorem Grows.passHeader {path : Path} (h : d.passHeader path = some d') : Grows d d' := by
  rw [Document.passHeader] at h
  split at h
  · cases h
    exact .put _ _ _
  · cases h
    exact .refl _
  · cases h

theorem Grows.passKey {path : Path} (h : d.passKey path = some d') : Grows d d' := by
  rw [Document.passKey] at h
  split at h
  · cases h
    exact .put _ _ _
  · cases h
  · cases h
    exact .refl _
  · cases h

theorem Grows.define {table : Path} {key : List String} {v : Value}
    (h : d.define table key v = some d') : Grows d d' := by
  simp only [Document.define, Option.bind_eq_bind, Option.bind_eq_some_iff] at h
  obtain ⟨d₁, hpass, h⟩ := h
  refine (Grows.foldlM Grows.passKey hpass).trans ?_
  split at h
  · split at h
    · cases h
      exact .put _ _ _
    · cases h
  · cases h

theorem Grows.openTable {path : Path} (h : d.openTable path = some d') : Grows d d' := by
  simp only [Document.openTable, Option.bind_eq_bind, Option.bind_eq_some_iff] at h
  obtain ⟨d₁, hpass, h⟩ := h
  refine (Grows.foldlM Grows.passHeader hpass).trans ?_
  split at h
  · cases h
    exact .put _ _ _
  · cases h
    exact .put _ _ _
  · cases h

/-- What a line does to a document: nothing, or it opens a table, or it writes a value. -/
inductive LineStep (d : Document) : Document → Prop where
  | skip : LineStep d d
  | header {path : Path} {d' : Document} (h : d.openTable path = some d') : LineStep d d'
  | setting {table : Path} {key : List String} {v : Value} {d' : Document}
      (h : d.define table key v = some d') : LineStep d d'

theorem LineStep.grows (h : LineStep d d') : Grows d d' := by
  cases h with
  | skip => exact .refl d
  | header h => exact .openTable h
  | setting h => exact .define h

/-- The text ends, or a line is read and then the lines behind it. -/
theorem readLines_succ_eq_some {fuel : Nat} {table : Path} {cs : List Char}
    (h : Toml.readLines (fuel + 1) d table cs = some d') :
    d' = d ∨ ∃ d₁ table' rest, LineStep d d₁ ∧ Toml.readLines fuel d₁ table' rest = some d' := by
  rw [Toml.readLines] at h
  split at h
  case h_1 => exact .inl (Option.some.inj h).symm
  case h_2 c rest hrest =>
    refine .inr ?_
    split at h
    case isTrue hend => exact ⟨d, table, rest, .skip, h⟩
    case isFalse =>
      split at h
      case isTrue hcomment =>
        split at h
        case h_1 rest' hline => exact ⟨d, table, rest', .skip, h⟩
        case h_2 => cases h
      case isFalse =>
        split at h
        case isTrue hheader =>
          split at h
          case h_1 path rest' hpath =>
            split at h
            case h_1 d₁ hopen => exact ⟨d₁, path, rest', .header hopen, h⟩
            case h_2 => cases h
          case h_2 => cases h
        case isFalse =>
          split at h
          case h_1 key v rest' hsetting =>
            split at h
            case h_1 d₁ hdefine => exact ⟨d₁, table, rest', .setting hdefine, h⟩
            case h_2 => cases h
          case h_2 => cases h

/-- Whatever is read, the document only grows. -/
theorem Grows.readLines {fuel : Nat} {table : Path} {cs : List Char}
    (h : Toml.readLines fuel d table cs = some d') : Grows d d' := by
  induction fuel generalizing d table cs with
  | zero => cases h
  | succ fuel ih =>
    obtain rfl | ⟨d₁, table', rest, hstep, hrest⟩ := readLines_succ_eq_some h
    · exact .refl _
    · exact hstep.grows.trans (ih hrest)

/-- At the root a key is written where nothing stands yet. -/
theorem define_root (d : Document) (key : String) (v : Value) :
    d.define [] [key] v = if d.get? [key] = none then some (d.put [key] (.value v)) else none := by
  cases h : d.get? [key] <;> simp [define, takesKey, pathsFrom, h]

end Document

/-! ## Steps -/

/-- A blank line does nothing. -/
theorem readLines_blank (fuel : Nat) (d : Document) (ls : List (List Char)) :
    readLines (fuel + 2) d [] (['\n'].intercalate ([] :: ls)) =
      readLines (fuel + 1) d [] (['\n'].intercalate ls) := by
  rw [intercalate_cons, List.nil_append]
  cases ls with
  | nil => rfl
  | cons l ls => rfl

/-- On the line of a bare key its value is read, then the rest of the line, and the value is
written. -/
theorem readLines_key {key : String} (h : IsBareKey key) (fuel : Nat) (d : Document)
    (cs : List Char) :
    readLines (fuel + 2) d [] (key.toList ++ ' ' :: '=' :: ' ' :: cs) =
      (value? (fuel + 1) (dropBlank cs)).bind fun (v, rest) =>
        (afterLine? rest).bind fun rest =>
          (d.define [] [key] v).bind fun d => readLines (fuel + 1) d [] rest := by
  have hkey := key?_bare h fuel (' ' :: cs)
  have hblank : dropBlank (' ' :: cs) = dropBlank cs := rfl
  -- The first character of the key is none that begins another kind of line.
  obtain ⟨c, chars, hchars, hbare⟩ := h.exists_cons
  have hend : c ≠ '\n' := ne_of_isBare hbare (by decide)
  have hcomment : c ≠ '#' := ne_of_isBare hbare (by decide)
  have hheader : c ≠ '[' := ne_of_isBare hbare (by decide)
  rw [hchars, List.cons_append] at hkey ⊢
  rw [readLines, dropBlank_cons (isBlank_of_isBare hbare)]
  simp only [hend, hcomment, hheader, if_false, setting?, hkey, hblank]
  cases value? (fuel + 1) (dropBlank cs) with
  | none => rfl
  | some r =>
    obtain ⟨v, rest'⟩ := r
    cases hline : afterLine? rest' with
    | none => simp [hline]
    | some rest'' =>
      cases hdefine : d.define [] [key] v with
      | none => simp [hline, hdefine]
      | some d' => simp [hline, hdefine]

end Positioning.Toml
