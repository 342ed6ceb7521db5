import Positioning.Log.Style
import Positioning.Proofs.Listings
import Positioning.Proofs.Log.JsonObjects

/-!
# JSON records

The line of a record is an object with five members, and is read as this object and as nothing else,
whatever the message is. Time and target stand in quotes as they are, and hold nothing that would
have to be escaped.

On its way out a line loses its delete characters, which have no escape and are no white space. So
what is written for a record is the line of the record without them.

## Main definitions

- `Json.Entry` is a record with any target and the time that it is stamped with.
- `Json.Entry.value` is the object that an entry stands for.
- `Json.Entry.written` is what is written for an entry, and `Json.Entry.shown` what is left of it.

## Main statements

- `Json.Entry.spells_line_iff`: what the line of an entry is read as.
- `Json.Entry.written_eq`: what is written for an entry is one line, that of what is shown of it.
- `Json.Entry.records_kept_apart`: what is written for a log, and what it is read as.
-/

namespace Positioning

/-! ## Delete characters -/

namespace Terminal

/-- The text without its delete characters. -/
def withoutDelete (text : String) : String :=
  String.ofList (text.toList.filter (· ≠ '\x7f'))

theorem withoutDelete_append (s t : String) :
    withoutDelete (s ++ t) = withoutDelete s ++ withoutDelete t := by
  simp [withoutDelete, String.ofList_append]

theorem withoutDelete_eq_self {text : String} (h : '\x7f' ∉ text.toList) :
    withoutDelete text = text := by
  rw [withoutDelete, List.filter_eq_self.mpr, String.ofList_toList]
  exact fun c hc => decide_eq_true fun hdelete => h (hdelete ▸ hc)

/-- Text without control characters, line feeds apart, loses its delete characters alone. -/
theorem stripFrom_ground (resumes shown : Bool) {cs : List Char}
    (h : ∀ c ∈ cs, 32 ≤ c.toNat ∨ c = '\n') :
    stripFrom resumes shown .ground cs = cs.filter (· ≠ '\x7f') := by
  induction cs generalizing shown with
  | nil => rfl
  | cons c cs ih =>
    obtain ⟨hc, hcs⟩ := List.forall_mem_cons.mp h
    by_cases hdelete : c = '\x7f'
    · subst hdelete
      have hshows : Phase.shows .ground '\x7f' = false := by decide
      have hnext : Phase.next .ground '\x7f' = .ground := by decide
      rw [stripFrom, ite_self, hshows, if_neg (by decide), hnext, ih false hcs]
      rfl
    · have hshows : Phase.shows .ground c = true := by
        rcases hc with hprints | rfl
        · have hcode : c.toNat ≠ 127 := fun hcode => hdelete (Char.toNat_inj.mp hcode)
          simp [Phase.shows, hprints, hcode, Phase.obeysControls]
        · decide
      have hnext : Phase.afterShown resumes .ground c = .ground := by simp [Phase.afterShown]
      rw [stripFrom, ite_self, hshows, if_pos rfl, hnext, ih true hcs,
        List.filter_cons_of_pos (by simpa using hdelete)]

theorem strip_eq_withoutDelete (resumes : Bool) {text : String}
    (h : ∀ c ∈ text.toList, 32 ≤ c.toNat ∨ c = '\n') : strip resumes text = withoutDelete text := by
  rw [strip, stripFrom_ground resumes false h, withoutDelete]

end Terminal

namespace Text

/-- Lines that are written one after the other, each with its line end, are taken apart again. -/
theorem lines_join {ls : List String} (h : ∀ l ∈ ls, '\n' ∉ l.toList) :
    lines (String.join (ls.map (· ++ "\n"))) = ls ++ [""] := by
  induction ls with
  | nil => rfl
  | cons l ls ih =>
    obtain ⟨hl, hls⟩ := List.forall_mem_cons.mp h
    have hsplit : (String.join ((l :: ls).map (· ++ "\n"))).toList =
        l.toList ++ '\n' :: (String.join (ls.map (· ++ "\n"))).toList := by
      simp [String.join_cons]
    rw [lines, hsplit, pieces_append_cons hl, List.map_cons, String.ofList_toList]
    exact congrArg (l :: ·) (ih hls)

end Text

namespace Log.Json

open Terminal (withoutDelete)

/-- A text that may stand between quotes as it is. -/
def IsPlainText (text : String) : Prop :=
  ∀ c ∈ text.toList, isPlain c = true

instance (text : String) : Decidable (IsPlainText text) :=
  List.decidableBAll (fun c : Char => isPlain c = true) text.toList

theorem quote_of_isPlainText {text : String} (h : IsPlainText text) :
    quote text = "\"" ++ text ++ "\"" := by
  rw [quote, flatMap_escape_of_isPlain h, String.ofList_toList]

theorem IsPlainText.withoutDelete {text : String} (h : IsPlainText text) :
    IsPlainText (withoutDelete text) := by
  intro c hc
  rw [Terminal.withoutDelete, String.toList_ofList] at hc
  exact h c (List.mem_of_mem_filter hc)

theorem isPlainText_level (l : Level) : IsPlainText l.name := by
  cases l <;> decide

theorem isPlainText_source (s : Source) : IsPlainText s.target := by
  cases s with
  | tool t => cases t <;> decide
  | _ => decide

/-- A text without control characters. -/
def HoldsNoControl (text : String) : Prop :=
  ∀ c ∈ text.toList, 32 ≤ c.toNat

instance (text : String) : Decidable (HoldsNoControl text) :=
  List.decidableBAll (fun c : Char => 32 ≤ c.toNat) text.toList

theorem holdsNoControl_append_iff {s t : String} :
    HoldsNoControl (s ++ t) ↔ HoldsNoControl s ∧ HoldsNoControl t := by
  rw [HoldsNoControl, String.toList_append, List.forall_mem_append, HoldsNoControl, HoldsNoControl]

theorem IsPlainText.holdsNoControl {text : String} (h : IsPlainText text) :
    HoldsNoControl text := fun c hc =>
  le_toNat_of_isPlain (h c hc)

theorem holdsNoControl_quote (text : String) : HoldsNoControl (quote text) := by
  have htext : HoldsNoControl (String.ofList (text.toList.flatMap escape)) := fun c hc =>
    le_toNat_of_mem_flatMap_escape (by rwa [String.toList_ofList] at hc)
  rw [quote, holdsNoControl_append_iff, holdsNoControl_append_iff]
  exact ⟨⟨by decide, htext⟩, by decide⟩

theorem holdsNoControl_ofNat (n : ℕ) : HoldsNoControl (Decimal.ofNat n) := by
  intro c hc
  rw [Decimal.ofNat, String.toList_ofList] at hc
  have hdigit := Decimal.isDigit_of_mem_digits n c hc
  simp only [Char.isDigit, Bool.and_eq_true, decide_eq_true_eq] at hdigit
  have hle := UInt32.le_iff_toNat_le.mp hdigit.1
  change 48 ≤ c.toNat at hle
  omega

theorem withoutDelete_quote (text : String) :
    withoutDelete (quote text) = quote (withoutDelete text) := by
  have hmark : withoutDelete "\"" = "\"" := by decide
  rw [quote, quote, Terminal.withoutDelete_append, Terminal.withoutDelete_append, hmark,
    Terminal.withoutDelete, String.toList_ofList, filter_flatMap_escape, Terminal.withoutDelete,
    String.toList_ofList]

/-- The member of an object with a key. -/
def Value.member? (key : String) : Value → Option Value
  | .object members => members.lookup key
  | _ => none

/-- A record with any target and the time it is stamped with. Both are written as they are: the path
of a module and a time of RFC 3339 hold no quote, no backslash and no control character. -/
@[ext]
structure Entry where
  time : String
  level : Level
  target : String
  text : String
  isPlainText_time : IsPlainText time
  isPlainText_target : IsPlainText target

namespace Entry

variable (process : ℕ) (e : Entry)

/-- The line of an entry. -/
def line : String :=
  object e.time (Decimal.ofNat process) e.level e.target e.text

/-- What is written for an entry. -/
def written : String :=
  Terminal.strip true (e.line process ++ "\n")

/-- The object that an entry stands for. -/
def value : Value :=
  .object [("ts", .string e.time), ("level", .string e.level.name), ("target", .string e.target),
    ("msg", .string e.text), ("pid", .number (Decimal.ofNat process))]

/-- The entry without its delete characters. -/
def shown : Entry where
  time := withoutDelete e.time
  level := e.level
  target := withoutDelete e.target
  text := withoutDelete e.text
  isPlainText_time := e.isPlainText_time.withoutDelete
  isPlainText_target := e.isPlainText_target.withoutDelete

def fields : List Field :=
  [.quoted "ts" e.time, .quoted "level" e.level.name, .quoted "target" e.target,
    .quoted "msg" e.text, .numeric "pid" process]

-- Used in place of the equation of `object`, which takes long to derive.
theorem line_parts : e.line process =
    "\x7b\"ts\":\"" ++ e.time ++ "\", \"level\":\"" ++ e.level.name ++ "\", \"target\":\"" ++
      e.target ++ "\", \"msg\":" ++ quote e.text ++ ", \"pid\":" ++ Decimal.ofNat process ++
        "\x7d" := rfl

theorem line_eq : e.line process = writtenObject (e.fields process) := by
  have hts : "\x7b\"ts\":\"" = "\x7b" ++ (quote "ts" ++ ":" ++ "\"") := by decide
  have hlevel : "\", \"level\":\"" = "\"" ++ (", " ++ (quote "level" ++ ":" ++ "\"")) := by decide
  have htarget : "\", \"target\":\"" = "\"" ++ (", " ++ (quote "target" ++ ":" ++ "\"")) := by
    decide
  have hmsg : "\", \"msg\":" = "\"" ++ (", " ++ (quote "msg" ++ ":")) := by decide
  have hpid : ", \"pid\":" = ", " ++ (quote "pid" ++ ":") := by decide
  rw [line_parts, hts, hlevel, htarget, hmsg, hpid]
  simp only [writtenObject, fields, Field.written, Field.quoted, Field.numeric,
    quote_of_isPlainText e.isPlainText_time, quote_of_isPlainText e.isPlainText_target,
    quote_of_isPlainText (isPlainText_level e.level), List.map_cons, List.map_nil,
    String.intercalate_cons_cons, String.intercalate_singleton, String.append_assoc]

/-- The line of an entry is read as the object that the entry stands for, and as nothing else. -/
theorem spells_line_iff (v : Value) : Spells (e.line process) v ↔ v = e.value process := by
  rw [line_eq]
  exact spells_writtenObject_iff (List.cons_ne_nil _ _) v

/-- No control character is left in the line of an entry. -/
theorem holdsNoControl_line : HoldsNoControl (e.line process) := by
  have htime : HoldsNoControl e.time := e.isPlainText_time.holdsNoControl
  have hlevel : HoldsNoControl e.level.name := (isPlainText_level e.level).holdsNoControl
  have htarget : HoldsNoControl e.target := e.isPlainText_target.holdsNoControl
  simp only [line_parts, holdsNoControl_append_iff, htime, hlevel, htarget,
    holdsNoControl_quote, holdsNoControl_ofNat, and_true]
  decide

theorem withoutDelete_line : withoutDelete (e.line process) = e.shown.line process := by
  have hlevel : withoutDelete e.level.name = e.level.name := by cases e.level <;> decide
  have hprocess : withoutDelete (Decimal.ofNat process) = Decimal.ofNat process :=
    Terminal.withoutDelete_eq_self fun h => by
      rw [Decimal.ofNat, String.toList_ofList] at h
      exact absurd (Decimal.isDigit_of_mem_digits process _ h) (by decide)
  have hkeys : ∀ text ∈ ["\x7b\"ts\":\"", "\", \"level\":\"", "\", \"target\":\"", "\", \"msg\":",
      ", \"pid\":", "\x7d"], withoutDelete text = text := by decide
  simp only [List.forall_mem_cons] at hkeys
  obtain ⟨hts, hname, htarget, hmsg, hpid, hend, -⟩ := hkeys
  simp only [line_parts, Terminal.withoutDelete_append, withoutDelete_quote, hlevel, hprocess, hts,
    hname, htarget, hmsg, hpid, hend, shown]

theorem newline_not_mem_line : '\n' ∉ (e.line process).toList := fun h =>
  absurd (e.holdsNoControl_line process _ h) (by decide)

/-- What is written for an entry is one line: that of the entry without its delete characters. -/
theorem written_eq : e.written process = e.shown.line process ++ "\n" := by
  have hstrip : e.written process = withoutDelete (e.line process ++ "\n") := by
    refine Terminal.strip_eq_withoutDelete true fun c hc => ?_
    rw [String.toList_append] at hc
    exact (List.mem_append.mp hc).imp (e.holdsNoControl_line process c) List.mem_singleton.mp
  rw [hstrip, Terminal.withoutDelete_append, withoutDelete_line]
  rfl

/-- A record of the tools, stamped with a time. -/
def ofRecord (time : String) (htime : IsPlainText time) (r : Record) : Entry where
  time := time
  level := r.level
  target := r.source.target
  text := r.text
  isPlainText_time := htime
  isPlainText_target := isPlainText_source r.source

/-- What the tools write for a record is the line that their JSON style shows it as, and a line
end. -/
theorem written_ofRecord (time : String) (htime : IsPlainText time) (r : Record) :
    (ofRecord time htime r).written process =
      (Style.json time (Decimal.ofNat process)).line r ++ "\n" := by
  have hline : (Style.json time (Decimal.ofNat process)).line r =
      withoutDelete ((ofRecord time htime r).line process) :=
    Terminal.strip_eq_withoutDelete true fun c hc =>
      .inl ((ofRecord time htime r).holdsNoControl_line process c hc)
  rw [written_eq, hline, withoutDelete_line]

/-- **Records are kept apart.** The line of an entry is read as the object that the entry stands
for, and as nothing else, whatever its message is. What is written for it is one line, read as the
object of the entry without its delete characters, so that messages that differ in more than delete
characters are told apart; and what is written for a log has the line of each entry and no other. -/
theorem records_kept_apart (process : ℕ) :
    (∀ (e : Entry) (v : Value), Spells (e.line process) v ↔ v = e.value process) ∧
      (∀ e : Entry, e.written process = e.shown.line process ++ "\n" ∧
        '\n' ∉ (e.shown.line process).toList ∧
        ∀ v, Spells (e.shown.line process) v ↔ v = e.shown.value process) ∧
      (∀ e : Entry, '\x7f' ∉ e.text.toList → e.shown.text = e.text) ∧
      (∀ (e e' : Entry) (v v' : Value),
        Spells (e.shown.line process) v → Spells (e'.shown.line process) v' →
          (v.member? "msg" = v'.member? "msg" ↔ withoutDelete e.text = withoutDelete e'.text)) ∧
      ∀ log : List Entry, Text.lines (String.join (log.map (written process))) =
        (log.map fun e => e.shown.line process) ++ [""] := by
  refine ⟨spells_line_iff process, fun e => ⟨e.written_eq process,
    e.shown.newline_not_mem_line process, e.shown.spells_line_iff process⟩,
    fun e => Terminal.withoutDelete_eq_self, ?_, ?_⟩
  · intro e e' v v' hv hv'
    obtain rfl := (e.shown.spells_line_iff process v).mp hv
    obtain rfl := (e'.shown.spells_line_iff process v').mp hv'
    exact ⟨fun h => Value.string.inj (Option.some.inj h), fun h => congrArg (some ∘ Value.string) h⟩
  · intro log
    have hlines : log.map (written process) =
        (log.map fun e => e.shown.line process).map (· ++ "\n") := by
      rw [List.map_map]
      exact List.map_congr_left fun e _ => e.written_eq process
    rw [hlines]
    exact Text.lines_join (List.forall_mem_map.mpr fun e _ => e.shown.newline_not_mem_line process)

/-- An entry in which the name of a device is logged. -/
def naming (device : String) : Entry where
  time := "2026-01-01T00:00:00Z"
  level := .info
  target := "gypsy_client::control"
  text := device
  isPlainText_time := by decide
  isPlainText_target := by decide

/-- A name that would end its string, its object and its line, and begin another object. -/
def forger : String :=
  "\"\x7d\n\x7b\""

def forgerLine : String :=
  "\x7b\"ts\":\"2026-01-01T00:00:00Z\", \"level\":\"INFO\", " ++
    "\"target\":\"gypsy_client::control\", \"msg\":\"\\\"\x7d\\n\x7b\\\"\", \"pid\":7\x7d"

theorem records_kept_apart_forger :
    (naming forger).written 7 = forgerLine ++ "\n" ∧
      (∀ v, Spells forgerLine v ↔ v = (naming forger).value 7) ∧
      ((naming forger).value 7).member? "msg" ≠ ((naming "").value 7).member? "msg" := by
  obtain ⟨hline, hwritten, htext, hmsg, -⟩ := records_kept_apart 7
  have hshown : (naming forger).shown = naming forger :=
    Entry.ext (by decide) rfl (by decide) (htext (naming forger) (by decide))
  have hempty : (naming "").shown = naming "" :=
    Entry.ext (by decide) rfl (by decide) (htext (naming "") (by decide))
  have hseven : Decimal.ofNat 7 = "7" := by
    rw [Decimal.ofNat, Decimal.digits, if_pos (by decide)]
    rfl
  have hforger : (naming forger).line 7 = forgerLine := by
    rw [line_parts, hseven]
    decide
  have hdiffer := hmsg (naming forger) (naming "") _ _ (((hwritten _).2.2 _).mpr rfl)
    (((hwritten _).2.2 _).mpr rfl)
  rw [hshown, hempty] at hdiffer
  refine ⟨?_, fun v => hforger ▸ hline (naming forger) v, mt hdiffer.mp (by decide)⟩
  rw [(hwritten (naming forger)).1, hshown, hforger]

/-- A name with a delete character is written as the name without it is. -/
theorem delete_unseen :
    (naming "gps\x7f").text ≠ (naming "gps").text ∧
      (naming "gps\x7f").written 7 = (naming "gps").written 7 ∧
      (naming "gps\x7f").written 7 = (naming "gps").line 7 ++ "\n" ∧
      ∀ v, Spells ((naming "gps").line 7) v →
        v.member? "msg" ≠ some (.string (naming "gps\x7f").text) := by
  have hdeleted : (naming "gps\x7f").shown = naming "gps" :=
    Entry.ext (by decide) rfl (by decide) (by decide)
  have hkept : (naming "gps").shown = naming "gps" :=
    Entry.ext (by decide) rfl (by decide) (by decide)
  refine ⟨by decide, by rw [written_eq, written_eq, hdeleted, hkept],
    by rw [written_eq, hdeleted], ?_⟩
  intro v hv hmsg
  rw [((naming "gps").spells_line_iff 7 v).mp hv] at hmsg
  have htext : (naming "gps").text = (naming "gps\x7f").text :=
    Value.string.inj (Option.some.inj hmsg)
  exact absurd htext (by decide)

end Entry

end Log.Json

end Positioning
