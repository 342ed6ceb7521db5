import Mathlib.Data.List.Basic
import Positioning.CommandLine

/-!
# The words of a command line

A word of a command line starts an option, or it is plain: a value or a device. The configuration
option is attached to its value in one word, or its value is the word behind it.

## Main definitions

- `CommandLine.IsPlain` tells the words that are values and devices.
- `CommandLine.configOption?` is the configuration option that a word starts.

## Main statements

- `CommandLine.attach_splitValue`, `CommandLine.splitValue_attach`: a name and the value behind its
  equals sign are told apart in one way.
- `CommandLine.configOption?_eq_awaiting_iff`, `CommandLine.configOption?_eq_attached_iff`: the
  words that await a value, and those that hold one.
-/

namespace Positioning.CommandLine

/-- A word that is a value or a device before the end of the options: a hyphen alone, or one that
does not start with a hyphen. -/
def IsPlain (word : String) : Prop :=
  word = "-" ∨ word.toList.head? ≠ some '-'

instance : DecidablePred IsPlain := fun word =>
  inferInstanceAs (Decidable (word = "-" ∨ word.toList.head? ≠ some '-'))

/-- The configuration option that a word starts, with the value that is attached to it. -/
def configOption? (word : String) : Option (Option String) :=
  match shape word with
  | .long name value? => if name = "config" then some value? else none
  | .short letter rest => if letter = 'c' then some (Progress.attached? rest) else none
  | .plain => none

theorem shape_of_long {word : String} {rest : List Char} (h : word.toList = '-' :: '-' :: rest) :
    shape word = .long (splitValue rest).1 (splitValue rest).2 := by
  rw [shape, h]
  rfl

theorem shape_of_short {word : String} {letter : Char} {rest : List Char}
    (h : word.toList = '-' :: letter :: rest) (hne : letter ≠ '-') :
    shape word = .short letter rest := by
  rw [shape, h]
  split
  · next heq => exact absurd (List.cons.inj (List.cons.inj heq).2).1 hne
  · next heq => simp_all
  · next heq => exact absurd rfl (heq _ _)

theorem shape_of_isPlain {word : String} (h : IsPlain word) : shape word = .plain := by
  rw [shape]
  split
  · next heq => rcases h with rfl | h <;> simp_all
  · next heq => rcases h with rfl | h <;> simp_all
  · rfl

/-- A word is a long option, a short one, or a plain word. -/
theorem word_cases (word : String) :
    (∃ rest, word.toList = '-' :: '-' :: rest) ∨
      (∃ letter rest, letter ≠ '-' ∧ word.toList = '-' :: letter :: rest) ∨ IsPlain word := by
  rw [IsPlain, ← String.toList_inj]
  generalize word.toList = cs
  match cs with
  | [] => simp
  | [c] => by_cases hc : c = '-' <;> simp [hc]
  | c :: d :: rest =>
    by_cases hc : c = '-'
    · by_cases hd : d = '-' <;> simp [hc, hd]
    · simp [hc]

/-- The text of a name, with an equals sign and the value behind it where there is one. -/
def attach (name : String) : Option String → List Char
  | none => name.toList
  | some value => name.toList ++ '=' :: value.toList

theorem splitValue_attach {name : String} (value? : Option String) (h : '=' ∉ name.toList) :
    splitValue (attach name value?) = (name, value?) := by
  have hpass : ∀ c ∈ name.toList, decide (c ≠ '=') = true := fun c hc => by
    simpa using fun e : c = '=' => h (e ▸ hc)
  cases value? with
  | none =>
    have htake : (name.toList ++ []).takeWhile (fun c => c ≠ '=') = name.toList ++ [] :=
      List.takeWhile_append_of_pos hpass
    have hdrop : (name.toList ++ []).dropWhile (fun c => c ≠ '=') = [] :=
      List.dropWhile_append_of_pos hpass
    rw [List.append_nil] at htake hdrop
    simp only [splitValue, attach, htake, hdrop, String.ofList_toList]
  | some value =>
    simp only [splitValue, attach, List.takeWhile_append_of_pos hpass,
      List.dropWhile_append_of_pos hpass]
    simp

/-- A text is split at its first equals sign. -/
theorem attach_splitValue (cs : List Char) : attach (splitValue cs).1 (splitValue cs).2 = cs := by
  have hsplit := List.takeWhile_append_dropWhile (p := (· ≠ '=')) (l := cs)
  cases hdrop : cs.dropWhile (· ≠ '=') with
  | nil =>
    rw [hdrop, List.append_nil] at hsplit
    simp only [splitValue, hdrop, attach, String.toList_ofList, hsplit]
  | cons c value =>
    have hc : c = '=' := by
      have hhead := List.head?_dropWhile_not (· ≠ '=') cs
      rw [hdrop] at hhead
      simpa using hhead
    rw [hdrop, hc] at hsplit
    simp only [splitValue, hdrop, attach, String.toList_ofList, hsplit]

theorem configOption?_eq_some_iff {word : String} {value? : Option String} :
    configOption? word = some value? ↔
      word.toList = '-' :: '-' :: attach "config" value? ∨
        ∃ rest, word.toList = '-' :: 'c' :: rest ∧ Progress.attached? rest = value? := by
  rcases word_cases word with ⟨rest, h⟩ | ⟨letter, rest, hne, h⟩ | h
  · simp only [configOption?, shape_of_long h, h]
    -- The name holds no equals sign, so that it ends where the value begins.
    have hconfig : (splitValue rest).1 = "config" ∧ (splitValue rest).2 = value? ↔
        rest = attach "config" value? := by
      refine ⟨fun ⟨hname, hvalue⟩ => ?_, ?_⟩
      · rw [← attach_splitValue rest, hname, hvalue]
      · rintro rfl
        exact Prod.mk.inj (splitValue_attach value? (by decide))
    simpa using hconfig
  · simp only [configOption?, shape_of_short h hne, h]
    simp [hne]
  · simp only [configOption?, shape_of_isPlain h]
    rcases h with rfl | h
    · simp
    · refine iff_of_false (by simp) ?_
      rintro (hlong | ⟨rest, hshort, -⟩)
      · simp [hlong] at h
      · simp [hshort] at h

theorem attached?_of_ne {c : Char} (hc : c ≠ '=') (rest : List Char) :
    Progress.attached? (c :: rest) = some (String.ofList (c :: rest)) := by
  unfold Progress.attached?
  split
  · next heq => cases heq
  · next heq => exact absurd (List.cons.inj heq).1 hc
  · rfl

theorem attached?_eq_none_iff {rest : List Char} : Progress.attached? rest = none ↔ rest = [] := by
  cases rest with
  | nil => exact iff_of_true rfl rfl
  | cons c rest =>
    by_cases hc : c = '='
    · subst hc
      exact iff_of_false (Option.some_ne_none _) (List.cons_ne_nil _ _)
    · simp [attached?_of_ne hc]

/-- The value of a short option stands behind an equals sign, or is all that stands behind it. -/
theorem attached?_eq_some_iff {rest : List Char} {value : String} :
    Progress.attached? rest = some value ↔
      rest = '=' :: value.toList ∨
        rest = value.toList ∧ value ≠ "" ∧ value.toList.head? ≠ some '=' := by
  cases rest with
  | nil =>
    refine iff_of_false (Option.some_ne_none _).symm ?_
    rintro (h | ⟨h, hne, -⟩)
    · cases h
    · exact hne (String.toList_inj.mp h.symm)
  | cons c rest =>
    by_cases hc : c = '='
    · subst hc
      have hattached : Progress.attached? ('=' :: rest) = some (String.ofList rest) := rfl
      rw [hattached, Option.some_inj, ← String.toList_inj, String.toList_ofList]
      constructor
      · rintro rfl
        exact .inl rfl
      · rintro (h | ⟨h, -, hhead⟩)
        · exact (List.cons.inj h).2
        · rw [← h] at hhead
          exact absurd rfl hhead
    · rw [attached?_of_ne hc, Option.some_inj, ← String.toList_inj, String.toList_ofList]
      constructor
      · intro h
        refine .inr ⟨h, ?_, ?_⟩
        · rintro rfl
          cases h
        · rw [← h]
          exact fun hhead => hc (Option.some.inj hhead)
      · rintro (h | ⟨h, -, -⟩)
        · exact absurd (List.cons.inj h).1 hc
        · exact h

/-- The words that await the value of the option. -/
theorem configOption?_eq_awaiting_iff (word : String) :
    configOption? word = some none ↔ word = "-c" ∨ word = "--config" := by
  rw [configOption?_eq_some_iff, ← String.toList_inj, ← String.toList_inj, or_comm]
  simp [attach, attached?_eq_none_iff]

/-- The words that hold the option with its value. -/
theorem configOption?_eq_attached_iff (word value : String) :
    configOption? word = some (some value) ↔
      (word = "-c" ++ value ∧ value ≠ "" ∧ value.toList.head? ≠ some '=') ∨
        word = "-c=" ++ value ∨ word = "--config=" ++ value := by
  rw [configOption?_eq_some_iff, ← String.toList_inj, ← String.toList_inj, ← String.toList_inj]
  have hlong : attach "config" (some value) = "config=".toList ++ value.toList := by simp [attach]
  simp only [hlong, attached?_eq_some_iff, String.toList_append]
  constructor
  · rintro (h | ⟨rest, h, rfl | ⟨rfl, hne, heq⟩⟩)
    · exact .inr (.inr h)
    · exact .inr (.inl h)
    · exact .inl ⟨h, hne, heq⟩
  · rintro (⟨h, hne, heq⟩ | h | h)
    · exact .inr ⟨_, h, .inr ⟨rfl, hne, heq⟩⟩
    · exact .inr ⟨_, h, .inl rfl⟩
    · exact .inl h

theorem configOption?_optionsEnd : configOption? "--" = none := by
  rfl

theorem not_isPlain_optionsEnd : ¬ IsPlain "--" := by
  rintro (h | h)
  · exact absurd h (by decide)
  · exact h rfl

theorem configOption?_of_isPlain {word : String} (h : IsPlain word) :
    configOption? word = none := by
  rw [configOption?, shape_of_isPlain h]

theorem not_isPlain_of_configOption? {word : String} {value? : Option String}
    (h : configOption? word = some value?) : ¬ IsPlain word := fun hplain => by
  cases h.symm.trans (configOption?_of_isPlain hplain)

end Positioning.CommandLine
