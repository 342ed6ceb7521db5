import Positioning.Proofs.Configuration.Document
import Positioning.Settings.File

/-!
# From the text of a configuration to the settings

A configuration is accepted exactly if the bus that it gives is one of the two and its numbers are
natural numbers of 63 bits. Each setting then has the value that is given for it, or else its
default, whatever the order of the lines and whatever the other lines give. No other key may stand
anywhere, and no key may stand twice.

## Main definitions

- `Settings.IsRefused` says that a text is no configuration.
- `Settings.StaysOnLine` says that what stands behind a key does not go on in the lines behind it.

## Main statements

- `Settings.parse_text_eq_ok_iff`: the settings that the lines of a configuration make.
- `Settings.isRefused_unknown` and `Settings.isRefused_twice`: other keys and second lines are
  refused.
- `Settings.text_determines_settings`: all of it.
-/

namespace Positioning.Settings

open Toml

/-! ## What a text should give -/

/-- A text is no configuration. -/
def IsRefused (text : String) : Prop :=
  ∃ e, parse text = .error e ∧ e.name = "InvalidData"

/-- What stands behind a key does not go on in the lines behind it: it is one line, and there are no
three quotes in a row, unless the line of the key can be read alone. -/
structure StaysOnLine (key value : String) : Prop where
  no_line_end : '\n' ∉ value.toList ∧ '\r' ∉ value.toList
  closed : ¬ HasBlock value.toList ∨ (document? (line key value)).isSome = true

/-- A text between double quotes, with its double quotes and backslashes escaped. -/
def quoted (name : String) : String :=
  String.ofList ('"' :: (escaped name.toList ++ ['"']))

/-! ## The settings of a text -/

section Texts

variable {given given' : List Given} {lines lines' before after : List String} {s : Settings}
  {key value : String}

theorem parse_eq_ok_iff_ofText? {text : String} : parse text = .ok s ↔ ofText? text = some s := by
  rw [parse]
  cases ofText? text <;> simp

theorem parse_eq_ok_iff {text : String} :
    parse text = .ok s ↔ ∃ d, document? text = some d ∧ ofDocument? d = some s := by
  rw [parse_eq_ok_iff_ofText?, ofText?]
  cases document? text <;> simp

/-- Texts that make the same settings are the same to the reader. -/
theorem parse_eq_of_ok_iff {text text' : String}
    (h : ∀ s, parse text = .ok s ↔ parse text' = .ok s) : parse text = parse text' := by
  have hsame : ofText? text = ofText? text' := by
    refine Option.ext fun s => ?_
    rw [← parse_eq_ok_iff_ofText?, ← parse_eq_ok_iff_ofText?, h]
  rw [parse, parse, hsame]

/-- What is not accepted is refused. -/
theorem isRefused_iff {text : String} : IsRefused text ↔ ∀ s, parse text ≠ .ok s := by
  constructor
  · rintro ⟨e, he, -⟩ s hs
    rw [hs] at he
    cases he
  · intro h
    refine ⟨.malformed, ?_, rfl⟩
    cases hs : ofText? text with
    | none => rw [parse, hs]
    | some s => exact absurd (parse_eq_ok_iff_ofText?.mpr hs) (h s)

theorem Given.IsValid.value?_ne_none {g : Given} (h : g.IsValid) : g.value? ≠ none := by
  have hinteger : ∀ n : Int, 0 ≤ n ∧ n < 9223372036854775808 → integerValue? n ≠ none := by
    intro n hn
    have hrange : least ≤ n ∧ n ≤ greatest :=
      ⟨Int.le_trans (by decide) hn.1, Int.le_of_lt_add_one hn.2⟩
    rw [integerValue?, if_pos hrange]
    exact Option.some_ne_none _
  cases g with
  | bus | service => exact Option.some_ne_none _
  | callTimeout n | processTimeout n => exact hinteger n h

theorem exists_parse_text (hkeys : (given.map Given.key).Nodup) (h : Spells given lines)
    (hvalid : ∀ g ∈ given, g.IsValid) : ∃ s, parse (text lines) = .ok s := by
  have hvalues : ∀ g ∈ given, g.value? ≠ none := fun g hg => (hvalid g hg).value?_ne_none
  obtain ⟨d, hd⟩ := exists_foldlM (d := .empty) hkeys (fun _ _ => rfl) hvalues
  obtain ⟨s, hs⟩ := (writes_of_foldlM hd).exists_settings hvalid
  exact ⟨s, parse_eq_ok_iff.mpr ⟨d, (document?_text h).trans hd, hs⟩⟩

/-- What lines that are accepted give is set, and all else has its default. -/
theorem setting?_of_parse_text (h : Spells given lines) (hs : parse (text lines) = .ok s) :
    (given.map Given.key).Nodup ∧ (∀ g ∈ given, g.IsValid ∧ setting? s g.key = some g) ∧
      ∀ key ∉ given.map Given.key, setting? s key = setting? default key := by
  obtain ⟨d, hd, hs⟩ := parse_eq_ok_iff.mp hs
  rw [document?_text h] at hd
  have hwrites := writes_of_foldlM hd
  exact ⟨hwrites.nodup, fun g hg => hwrites.setting?_given hs hg,
    fun key hkey => hwrites.setting?_absent hs hkey⟩

/-- The settings that the lines of a configuration make. -/
theorem parse_text_eq_ok_iff (hkeys : (given.map Given.key).Nodup) (h : Spells given lines) :
    parse (text lines) = .ok s ↔
      (∀ g ∈ given, g.IsValid ∧ setting? s g.key = some g) ∧
        ∀ key ∉ given.map Given.key, setting? s key = setting? default key := by
  constructor
  · exact fun hs => (setting?_of_parse_text h hs).2
  · rintro ⟨hgiven, habsent⟩
    obtain ⟨s', hs'⟩ := exists_parse_text hkeys h fun g hg => (hgiven g hg).1
    obtain ⟨-, hgiven', habsent'⟩ := setting?_of_parse_text h hs'
    have hsame : s' = s := by
      refine eq_of_setting? fun key => ?_
      by_cases hkey : key ∈ given.map Given.key
      · obtain ⟨g, hg, rfl⟩ := List.mem_map.mp hkey
        rw [(hgiven g hg).2, (hgiven' g hg).2]
      · rw [habsent key hkey, habsent' key hkey]
    rw [← hsame, hs']

/-- The order of the lines, and how the values are written, makes no difference. -/
theorem parse_text_perm (hkeys : (given.map Given.key).Nodup) (h : Spells given lines)
    (hperm : given'.Perm given) (h' : Spells given' lines') :
    parse (text lines') = parse (text lines) := by
  have hkeys' : (given'.map Given.key).Nodup := (hperm.map Given.key).nodup_iff.mpr hkeys
  refine parse_eq_of_ok_iff fun s => ?_
  rw [parse_text_eq_ok_iff hkeys' h', parse_text_eq_ok_iff hkeys h]
  simp only [hperm.mem_iff, (hperm.map Given.key).mem_iff]

/-- What is set under a key depends on nothing but what is given for it. -/
theorem setting?_congr {s' : Settings} (h : Spells given lines) (h' : Spells given' lines')
    (hs : parse (text lines) = .ok s) (hs' : parse (text lines') = .ok s')
    (hsame : ∀ g : Given, g.key = key → (g ∈ given ↔ g ∈ given')) :
    setting? s key = setting? s' key := by
  obtain ⟨-, hgiven, habsent⟩ := setting?_of_parse_text h hs
  obtain ⟨-, hgiven', habsent'⟩ := setting?_of_parse_text h' hs'
  by_cases hkey : key ∈ given.map Given.key
  · obtain ⟨g, hg, rfl⟩ := List.mem_map.mp hkey
    rw [(hgiven g hg).2, (hgiven' g ((hsame g rfl).mp hg)).2]
  · have hkey' : key ∉ given'.map Given.key := by
      rintro hmem
      obtain ⟨g, hg, rfl⟩ := List.mem_map.mp hmem
      exact hkey (List.mem_map_of_mem ((hsame g rfl).mpr hg))
    rw [habsent key hkey, habsent' key hkey']

/-! ## Other lines -/

theorem Spells.append (h : Spells given before) (h' : Spells given' after) :
    Spells (given ++ given') (before ++ after) := by
  induction h with
  | nil => exact h'
  | blank _ ih => exact .blank ih
  | setting hvalue _ ih => exact .setting hvalue ih

theorem Spells.split (h : Spells given (before ++ after)) :
    ∃ given₁ given₂, given = given₁ ++ given₂ ∧ Spells given₁ before ∧ Spells given₂ after := by
  induction before generalizing given with
  | nil => exact ⟨[], given, rfl, .nil, h⟩
  | cons l before ih =>
    cases h with
    | blank h =>
      obtain ⟨given₁, given₂, rfl, h₁, h₂⟩ := ih h
      exact ⟨given₁, given₂, rfl, .blank h₁, h₂⟩
    | @setting g _ _ _ hvalue h =>
      obtain ⟨given₁, given₂, rfl, h₁, h₂⟩ := ih h
      exact ⟨g :: given₁, given₂, rfl, .setting hvalue h₁, h₂⟩

theorem get?_of_define {d d' : Document} {v : Value} (h : d.define [] [key] v = some d') :
    d.get? [key] = none ∧ (d'.get? [key]).isSome = true := by
  rw [Document.define_root] at h
  split at h
  case isTrue hnone =>
    cases h
    exact ⟨hnone, by rw [Table.get?_put, if_pos rfl, Option.isSome_some]⟩
  case isFalse => cases h

/-- A line with a bare key that is accepted has written that key, where it did not stand before. -/
theorem get?_of_readLines_key (hkey : IsBareKey key) {fuel : Nat} {d d' : Document} {cs : List Char}
    (h : readLines (fuel + 2) d [] (key.toList ++ ' ' :: '=' :: ' ' :: cs) = some d') :
    d.get? [key] = none ∧ (d'.get? [key]).isSome = true := by
  rw [readLines_key hkey] at h
  simp only [Option.bind_eq_some_iff] at h
  obtain ⟨⟨v, rest⟩, -, rest', -, d₁, hdefine, hrest⟩ := h
  obtain ⟨hnone, hsome⟩ := get?_of_define hdefine
  exact ⟨hnone, Document.Grows.readLines hrest _ hsome⟩

/-- A text with a key that may not be set is refused, whatever stands behind the key. -/
theorem isRefused_unknown (h : Spells given before) (hkey : IsBareKey key) (hunknown : key ∉ keys)
    (value : String) (after : List String) :
    IsRefused (text (before ++ line key value :: after)) := by
  refine isRefused_iff.mpr fun s hs => ?_
  obtain ⟨d', hd', hs⟩ := parse_eq_ok_iff.mp hs
  obtain ⟨n, -, hdocument⟩ := document?_insert h hkey value after
  rw [hdocument, Option.bind_eq_some_iff] at hd'
  obtain ⟨d, -, hlines⟩ := hd'
  have hsome := (get?_of_readLines_key hkey hlines).2
  have hchild : [key] ∈ d'.children [] := by
    simp [Document.children, Table.mem_keys_iff, hsome]
  have hknown := List.all_eq_true.mp (ofDocument?_eq_some_iff.mp hs).1 _ hchild
  simp [hunknown] at hknown

/-- A key that stands before a line cannot stand on that line, whatever stands behind it. -/
theorem isRefused_after (h : Spells given before) (hkey : key ∈ given.map Given.key)
    (value : String) (after : List String) :
    IsRefused (text (before ++ line key value :: after)) := by
  obtain ⟨g, hg, rfl⟩ := List.mem_map.mp hkey
  refine isRefused_iff.mpr fun s hs => ?_
  obtain ⟨d', hd', -⟩ := parse_eq_ok_iff.mp hs
  obtain ⟨n, -, hdocument⟩ := document?_insert h g.isBareKey value after
  rw [hdocument, Option.bind_eq_some_iff] at hd'
  obtain ⟨d, hd, hlines⟩ := hd'
  obtain ⟨v, -, hget⟩ := (writes_of_foldlM hd).get?_key g hg
  rw [(get?_of_readLines_key g.isBareKey hlines).1] at hget
  cases hget

/-- A second line for a key is refused, in the form of the other lines. -/
theorem isRefused_written (h : Spells given (before ++ after)) {g : Given}
    (hvalue : g.Written value) (hkey : g.key ∈ given.map Given.key) :
    IsRefused (text (before ++ line g.key value :: after)) := by
  obtain ⟨given₁, given₂, rfl, h₁, h₂⟩ := h.split
  have hlines := h₁.append (.setting hvalue h₂)
  refine isRefused_iff.mpr fun s hs => ?_
  have hnodup := (setting?_of_parse_text hlines hs).1
  rw [List.map_append, List.map_cons, List.nodup_middle] at hnodup
  rw [List.map_append] at hkey
  exact (List.nodup_cons.mp hnodup).1 hkey

/-- A key that stands behind a line cannot stand on that line, where its value stays there. -/
theorem isRefused_before (h₁ : Spells given before) (h₂ : Spells given' after)
    (hkey : key ∈ given'.map Given.key) (hstays : StaysOnLine key value) :
    IsRefused (text (before ++ line key value :: after)) := by
  obtain ⟨g, hg, rfl⟩ := List.mem_map.mp hkey
  obtain ⟨⟨hend, hreturn⟩, hclosed⟩ := hstays
  have hbehind : behind (after.map String.toList) =
      '\n' :: ['\n'].intercalate (after.map String.toList) := by
    refine (behind_eq _).resolve_left fun ⟨_, hempty⟩ => ?_
    rw [List.map_eq_nil_iff.mp hempty] at h₂
    cases h₂
    cases hg
  refine isRefused_iff.mpr fun s hs => ?_
  obtain ⟨d', hd', -⟩ := parse_eq_ok_iff.mp hs
  obtain ⟨n, hn, hdocument⟩ := document?_insert h₁ g.isBareKey value after
  have hreturns : '\r' ∉ value.toList ++ behind (after.map String.toList) := by
    rw [List.mem_append, not_or]
    exact ⟨hreturn, not_mem_behind (by decide) (not_mem_of_spells h₂)⟩
  rw [unifyLineEnds_eq hreturns, hbehind] at hn hdocument
  rw [hdocument, Option.bind_eq_some_iff] at hd'
  obtain ⟨d, -, hlines⟩ := hd'
  -- The fuel is enough for the line alone and for the lines behind it.
  have hafter := length_le_intercalate (after.map String.toList)
  simp only [List.length_append, List.length_cons, List.length_map] at hn hafter
  have halone : ¬ HasBlock value.toList ∨ ∃ m ≤ n, (readLines (m + 2) .empty []
      (g.key.toList ++ ' ' :: '=' :: ' ' :: value.toList)).isSome = true := by
    refine hclosed.imp_right fun hsome => ⟨(line g.key value).toList.length, ?_, ?_⟩
    · rw [toList_line]
      simp only [List.length_append, List.length_cons]
      omega
    · rwa [← document?_line g.isBareKey hreturn]
  obtain hnone | ⟨v, heq⟩ := readLines_key_line g.isBareKey hend (head?_dropGap h₂) halone d
  · rw [hnone] at hlines
    cases hlines
  · rw [heq, Option.bind_eq_some_iff] at hlines
    obtain ⟨d₁, hdefine, hlines⟩ := hlines
    obtain ⟨fuel, rfl⟩ := Nat.exists_eq_add_of_le (show after.length ≤ n by omega)
    have hrest := readLines_spells h₂ fuel d₁ []
    rw [List.append_nil, hlines] at hrest
    obtain ⟨d₂, hd₂, -⟩ := Option.bind_eq_some_iff.mp hrest.symm
    -- The line has written the key, so that it cannot be written again.
    have hnone := (writes_of_foldlM hd₂).get?_before g hg
    have hsome := (get?_of_define hdefine).2
    rw [hnone] at hsome
    cases hsome

/-- The key of a line can be told. -/
theorem eq_of_line {key' value' : String} (hkey : IsBareKey key) (hkey' : IsBareKey key')
    (h : line key value = line key' value') : key = key' := by
  have hpart := simpleKey?_bare hkey ('=' :: ' ' :: value.toList)
  rw [← toList_line, h, toList_line, simpleKey?_bare hkey'] at hpart
  exact ((Prod.mk.inj (Option.some.inj hpart)).1).symm

theorem Spells.key_mem (h : Spells given lines) (hkey : IsBareKey key)
    (hmem : line key value ∈ lines) : key ∈ given.map Given.key := by
  induction h with
  | nil => simp at hmem
  | blank _ ih =>
    refine ih ((List.mem_cons.mp hmem).resolve_left fun heq => ?_)
    have hchars := congrArg String.toList heq
    simp [toList_line] at hchars
  | @setting g _ _ _ _ _ ih =>
    obtain heq | hmem := List.mem_cons.mp hmem
    · exact List.mem_cons.mpr (.inl (eq_of_line hkey g.isBareKey heq))
    · exact List.mem_cons_of_mem _ (ih hmem)

/-- A second line for a key is refused. Before the line of the key its value has to stay on its
line. -/
theorem isRefused_twice (h : Spells given (before ++ after)) (hkey : key ∈ given.map Given.key)
    (hline : StaysOnLine key value ∨ ∃ value', line key value' ∈ before) :
    IsRefused (text (before ++ line key value :: after)) := by
  have hbare : IsBareKey key := by
    obtain ⟨g, -, rfl⟩ := List.mem_map.mp hkey
    exact g.isBareKey
  obtain ⟨given₁, given₂, rfl, h₁, h₂⟩ := h.split
  rw [List.map_append, List.mem_append] at hkey
  obtain hstays | ⟨value', hmem⟩ := hline
  · obtain hkey | hkey := hkey
    · exact isRefused_after h₁ hkey value after
    · exact isRefused_before h₁ h₂ hkey hstays
  · exact isRefused_after h₁ (h₁.key_mem hbare hmem) value after

/-- A value in three quotes can take the line behind it into itself, and then that line is no line
of its own. -/
example : ofText? "service = '''\nservice = \"''' #\"" =
    some { default with service := "service = \"" } := by
  decide +kernel

end Texts

/-! ## What can be written -/

/-- A text without control characters can be given in double quotes. -/
theorem written_quoted {name : String} (h : ∀ c ∈ name.toList, 32 ≤ c.toNat ∧ c.toNat ≠ 127) :
    (Given.service name).Written (quoted name) := by
  refine .service (basic_escaped fun c hc => ?_)
  obtain ⟨hspace, hdelete⟩ := h c hc
  simp [isPlain, hspace, hdelete]

/-- Every number can be given in decimal digits. -/
theorem numeral_ofInt (n : Int) : Numeral (Decimal.ofInt n).toList n := by
  rw [Decimal.ofInt]
  split
  case isTrue hneg =>
    have hn : -(n.natAbs : Int) = n := by omega
    have hminus := Numeral.minus n.natAbs
    rw [hn] at hminus
    simpa [Decimal.ofNat] using hminus
  case isFalse hpos =>
    have hn : (n.natAbs : Int) = n := by omega
    have hplain := Numeral.plain n.natAbs
    rw [hn] at hplain
    simpa [Decimal.ofNat] using hplain

theorem written_ofInt (n : Int) :
    (Given.callTimeout n).Written (Decimal.ofInt n) ∧
      (Given.processTimeout n).Written (Decimal.ofInt n) := by
  have hnumeral := numeral_ofInt n
  rw [← String.ofList_toList (s := Decimal.ofInt n)]
  exact ⟨.callTimeout hnumeral, .processTimeout hnumeral⟩

/-! ## From text to settings -/

/-- A configuration gives the settings that its lines give and the defaults of the others, or it is
refused. -/
theorem text_determines_settings {given : List Given} {lines : List String}
    (hkeys : (given.map Given.key).Nodup) (h : Spells given lines) :
    -- The text is accepted exactly if all that it gives is accepted.
    ((∃ s, parse (text lines) = .ok s) ↔ ∀ g ∈ given, g.IsValid) ∧
    ((∃ g ∈ given, ¬ g.IsValid) → IsRefused (text lines)) ∧
    -- What is given is set, and all else has its default.
    (∀ s, parse (text lines) = .ok s →
      (∀ g ∈ given, setting? s g.key = some g) ∧
        ∀ key ∉ given.map Given.key, setting? s key = setting? default key) ∧
    -- Neither the order of the lines nor what the others give makes a difference.
    (∀ given' lines', given'.Perm given → Spells given' lines' →
      parse (text lines') = parse (text lines)) ∧
    (∀ given' lines' s s' key, Spells given' lines' → parse (text lines) = .ok s →
      parse (text lines') = .ok s' → (∀ g : Given, g.key = key → (g ∈ given ↔ g ∈ given')) →
        setting? s key = setting? s' key) ∧
    -- No other key and no second line may stand anywhere.
    (∀ before after, lines = before ++ after →
      (∀ key value, IsBareKey key → key ∉ keys →
        IsRefused (text (before ++ line key value :: after))) ∧
      (∀ (g : Given) value, g.Written value → g.key ∈ given.map Given.key →
        IsRefused (text (before ++ line g.key value :: after))) ∧
      ∀ key value, key ∈ given.map Given.key →
        StaysOnLine key value ∨ (∃ value', line key value' ∈ before) →
          IsRefused (text (before ++ line key value :: after))) ∧
    -- Every text without control characters and every number can be given.
    (∀ name : String, (∀ c ∈ name.toList, 32 ≤ c.toNat ∧ c.toNat ≠ 127) →
      (Given.service name).Written (quoted name)) ∧
    ∀ n : Int, (Given.callTimeout n).Written (Decimal.ofInt n) ∧
      (Given.processTimeout n).Written (Decimal.ofInt n) := by
  have haccepted : (∃ s, parse (text lines) = .ok s) ↔ ∀ g ∈ given, g.IsValid :=
    ⟨fun ⟨_, hs⟩ g hg => ((setting?_of_parse_text h hs).2.1 g hg).1, exists_parse_text hkeys h⟩
  refine ⟨haccepted, ?_, ?_, ?_, ?_, ?_, ?_, ?_⟩
  · rintro ⟨g, hg, hinvalid⟩
    exact isRefused_iff.mpr fun s hs => hinvalid (haccepted.mp ⟨s, hs⟩ g hg)
  · intro s hs
    obtain ⟨-, hgiven, habsent⟩ := setting?_of_parse_text h hs
    exact ⟨fun g hg => (hgiven g hg).2, habsent⟩
  · exact fun given' lines' hperm h' => parse_text_perm hkeys h hperm h'
  · exact fun given' lines' s s' key h' hs hs' hsame => setting?_congr h h' hs hs' hsame
  · rintro before after rfl
    obtain ⟨given₁, given₂, -, h₁, -⟩ := h.split
    exact ⟨fun key value hkey hunknown => isRefused_unknown h₁ hkey hunknown value after,
      fun g value hvalue hkey => isRefused_written h hvalue hkey,
      fun key value hkey hline => isRefused_twice h hkey hline⟩
  · exact fun name hname => written_quoted hname
  · exact written_ofInt

/-- A text that gives three of the four settings, and one with another key among them. -/
theorem text_determines_settings_partial :
    ∃ s, parse (text ["", "bus = \"session\"", "service = \"Gypsy\"", "call_timeout_ms = 500"]) =
        .ok s ∧
      setting? s "bus" = some (.bus "session") ∧ setting? s "service" = some (.service "Gypsy") ∧
      setting? s "call_timeout_ms" = some (.callTimeout 500) ∧
      setting? s "process_timeout_ms" = setting? default "process_timeout_ms" ∧
      IsRefused (text ["", "bus = \"session\"", "unknown_key = 1", "service = \"Gypsy\"",
        "call_timeout_ms = 500"]) := by
  have hkeys : ([.bus "session", .service "Gypsy", .callTimeout 500].map Given.key).Nodup := by
    decide
  have hbus : line "bus" (quoted "session") = "bus = \"session\"" := by decide +kernel
  have hservice : line "service" (quoted "Gypsy") = "service = \"Gypsy\"" := by decide +kernel
  have hcall : line "call_timeout_ms" (Decimal.ofInt 500) = "call_timeout_ms = 500" := by
    decide +kernel
  have hunknown : line "unknown_key" "1" = "unknown_key = 1" := by decide +kernel
  have hspells : Spells [.bus "session", .service "Gypsy", .callTimeout 500]
      (["", "bus = \"session\""] ++ ["service = \"Gypsy\"", "call_timeout_ms = 500"]) := by
    rw [← hbus, ← hservice, ← hcall]
    have hname : Basic (escaped "session".toList) "session".toList :=
      basic_escaped (List.all_eq_true.mp (by decide))
    have hname' : Basic (escaped "Gypsy".toList) "Gypsy".toList :=
      basic_escaped (List.all_eq_true.mp (by decide))
    exact .blank (.setting (.bus hname) (.setting (.service hname')
      (.setting (written_ofInt 500).1 .nil)))
  obtain ⟨haccepted, -, hset, -, -, hother, -⟩ := text_determines_settings hkeys hspells
  obtain ⟨s, hs⟩ := haccepted.mpr (by simp [Given.IsValid])
  obtain ⟨hgiven, habsent⟩ := hset s hs
  have hbare : IsBareKey "unknown_key" := isBareKey_of_all (by decide) (by decide)
  have hrefused := (hother _ _ rfl).1 "unknown_key" "1" hbare (by decide)
  rw [hunknown] at hrefused
  exact ⟨s, hs, hgiven (.bus "session") (by simp), hgiven (.service "Gypsy") (by simp),
    hgiven (.callTimeout 500) (by simp), habsent _ (by decide), hrefused⟩

end Positioning.Settings
