import Mathlib.Tactic.ByContra
import Mathlib.Tactic.Push
import Positioning.Proofs.Configuration.Lines

/-!
# The settings of a document

The lines of a configuration write what they give, if their keys are different and their numbers
have 64 bits. The settings that the document makes are those that were written and the defaults of
the others, if the bus is one of the two and no number is negative.

## Main definitions

- `Settings.Given.IsValid` says which values are accepted.
- `Settings.setting?` is what is set under a key.
- `Settings.Writes` relates a document to the one with the settings that are given.

## Main statements

- `Settings.writes_of_foldlM` and `Settings.exists_foldlM`: what the lines write, and when they can.
- `Settings.Writes.setting?_given` and `Settings.Writes.setting?_absent`: what is set.
- `Settings.Writes.exists_settings`: when there are settings.
-/

namespace Positioning.Settings

open Toml

/-! ## What should be set -/

namespace Given

/-- The values that are accepted. -/
def IsValid : Given → Prop
  | bus name => name = "system" ∨ name = "session"
  | service _ => True
  | callTimeout n => 0 ≤ n ∧ n < 9223372036854775808
  | processTimeout n => 0 ≤ n ∧ n < 9223372036854775808

end Given

/-- How a configuration names a bus. -/
def busName : BusKind → String
  | .system => "system"
  | .session => "session"

/-- What is set under a key, in the form in which a configuration gives it. -/
def setting? (s : Settings) (key : String) : Option Given :=
  if key = "bus" then some (.bus (busName s.bus))
  else if key = "service" then some (.service s.service)
  else if key = "call_timeout_ms" then some (.callTimeout s.callTimeout.count)
  else if key = "process_timeout_ms" then some (.processTimeout s.processTimeout.count)
  else none

/-! ## What is written -/

/-- A document is another one with the settings that are given, each under a key of its own. -/
structure Writes (given : List Given) (d d' : Document) : Prop where
  nodup : (given.map Given.key).Nodup
  get?_before : ∀ g ∈ given, d.get? [g.key] = none
  get?_key : ∀ g ∈ given, ∃ v, g.value? = some v ∧ d'.get? [g.key] = some (.value v)
  get?_other : ∀ path, (∀ g ∈ given, path ≠ [g.key]) → d'.get? path = d.get? path

section Writes

variable {given : List Given} {d d' : Document} {g : Given}

theorem Given.write_eq_some_iff :
    g.write d = some d' ↔
      ∃ v, g.value? = some v ∧ d.get? [g.key] = none ∧ d' = d.put [g.key] (.value v) := by
  rw [Given.write, Option.bind_eq_some_iff]
  refine exists_congr fun v => and_congr_right fun _ => ?_
  rw [Document.define_root]
  split
  case isTrue hnone => simp [hnone, eq_comm]
  case isFalse hsome => simp [hsome]

theorem writes_nil (d : Document) : Writes [] d d where
  nodup := List.nodup_nil
  get?_before := by simp
  get?_key := by simp
  get?_other _ _ := rfl

/-- One more setting is written before the others. -/
theorem Writes.cons {v : Value} (hvalue : g.value? = some v) (hnone : d.get? [g.key] = none)
    (h : Writes given (d.put [g.key] (.value v)) d') : Writes (g :: given) d d' := by
  have hput : ∀ path, (d.put [g.key] (.value v)).get? path =
      if [g.key] = path then some (.value v) else d.get? path := fun path => Table.get?_put ..
  -- The others are written where nothing stands yet, and so under other keys than the first.
  have hne : ∀ g' ∈ given, g.key ≠ g'.key := by
    intro g' hg' heq
    have hnew := h.get?_before g' hg'
    rw [← heq, hput, if_pos rfl] at hnew
    cases hnew
  refine ⟨?_, ?_, ?_, ?_⟩
  · refine List.nodup_cons.mpr ⟨fun hmem => ?_, h.nodup⟩
    obtain ⟨g', hg', heq⟩ := List.mem_map.mp hmem
    exact hne g' hg' heq.symm
  · refine List.forall_mem_cons.mpr ⟨hnone, fun g' hg' => ?_⟩
    have hnew := h.get?_before g' hg'
    rwa [hput, if_neg (by simpa using hne g' hg')] at hnew
  · refine List.forall_mem_cons.mpr ⟨⟨v, hvalue, ?_⟩, h.get?_key⟩
    rw [h.get?_other [g.key] fun g' hg' => by simpa using hne g' hg', hput, if_pos rfl]
  · intro path hpath
    obtain ⟨hfirst, hrest⟩ := List.forall_mem_cons.mp hpath
    rw [h.get?_other path hrest, hput, if_neg (Ne.symm hfirst)]

/-- What the lines of settings write. -/
theorem writes_of_foldlM (h : given.foldlM Given.write d = some d') : Writes given d d' := by
  induction given generalizing d with
  | nil =>
    cases h
    exact writes_nil _
  | cons g given ih =>
    rw [List.foldlM_cons, Option.bind_eq_bind, Option.bind_eq_some_iff] at h
    obtain ⟨d₁, hfirst, hrest⟩ := h
    obtain ⟨v, hvalue, hnone, rfl⟩ := Given.write_eq_some_iff.mp hfirst
    exact .cons hvalue hnone (ih hrest)

/-- They write it if their keys are different and their values have a form in a document. -/
theorem exists_foldlM (hnodup : (given.map Given.key).Nodup)
    (hnone : ∀ g ∈ given, d.get? [g.key] = none) (hvalues : ∀ g ∈ given, g.value? ≠ none) :
    ∃ d', given.foldlM Given.write d = some d' := by
  induction given generalizing d with
  | nil => exact ⟨d, rfl⟩
  | cons g given ih =>
    obtain ⟨hne, hnodup⟩ := List.nodup_cons.mp hnodup
    obtain ⟨hg, hnone⟩ := List.forall_mem_cons.mp hnone
    obtain ⟨hvalue, hvalues⟩ := List.forall_mem_cons.mp hvalues
    obtain ⟨v, hv⟩ := Option.ne_none_iff_exists'.mp hvalue
    have hfirst := Given.write_eq_some_iff.mpr ⟨v, hv, hg, rfl⟩
    have hrest : ∀ g' ∈ given, (d.put [g.key] (.value v)).get? [g'.key] = none := by
      intro g' hg'
      have hkey : g.key ≠ g'.key := fun heq => hne (heq ▸ List.mem_map_of_mem hg')
      rw [Table.get?_put, if_neg (by simpa using hkey), hnone g' hg']
    obtain ⟨d', hd'⟩ := ih hnodup hrest hvalues
    refine ⟨d', ?_⟩
    rw [List.foldlM_cons, hfirst, Option.bind_eq_bind, Option.bind_some, hd']

end Writes

/-! ## The settings of a document -/

section Settings

variable {given : List Given} {d : Document} {s : Settings}

theorem Writes.get?_absent (h : Writes given .empty d) {key : String}
    (hkey : key ∉ given.map Given.key) : d.get? [key] = none := by
  refine h.get?_other [key] fun g hg heq => hkey ?_
  exact List.mem_map.mpr ⟨g, hg, (List.cons.inj heq).1.symm⟩

/-- Only keys that may be set stand in the document. -/
theorem Writes.allKnown (h : Writes given .empty d) : allKnown d = true := by
  refine List.all_eq_true.mpr fun path hpath => ?_
  obtain ⟨hmem, -⟩ := List.mem_filter.mp hpath
  have hsome := (Table.mem_keys_iff d path).mp hmem
  obtain ⟨g, -, rfl⟩ : ∃ g ∈ given, path = [g.key] := by
    by_contra hnone
    push Not at hnone
    rw [h.get?_other path hnone] at hsome
    cases hsome
  simp [g.key_mem_keys]

theorem ofText?_eq_some_iff {name : String} {b : BusKind} :
    BusKind.ofText? name = some b ↔
      name = "system" ∧ b = .system ∨ name = "session" ∧ b = .session := by
  rw [BusKind.ofText?]
  split
  case isTrue h => simp [h, eq_comm]
  case isFalse hsystem =>
    split
    case isTrue h => simp [h, eq_comm]
    case isFalse hsession => simp [hsystem, hsession]

theorem Writes.bus?_given (h : Writes given .empty d) {name : String} (hg : .bus name ∈ given) :
    bus? d = BusKind.ofText? name := by
  obtain ⟨v, hv, hget⟩ := h.get?_key _ hg
  cases hv
  change d.get? ["bus"] = _ at hget
  simp [bus?, hget]

theorem Writes.bus?_absent (h : Writes given .empty d) (hkey : "bus" ∉ given.map Given.key) :
    bus? d = some default.bus := by
  simp [bus?, h.get?_absent hkey]

theorem Writes.service?_given (h : Writes given .empty d) {name : String}
    (hg : .service name ∈ given) : service? d = some name := by
  obtain ⟨v, hv, hget⟩ := h.get?_key _ hg
  cases hv
  change d.get? ["service"] = _ at hget
  simp [service?, hget]

theorem Writes.service?_absent (h : Writes given .empty d)
    (hkey : "service" ∉ given.map Given.key) : service? d = some default.service := by
  simp [service?, h.get?_absent hkey]

theorem integerValue?_eq_some_iff {n : Int} {v : Value} :
    Given.integerValue? n = some v ↔ (least ≤ n ∧ n ≤ greatest) ∧ v = .integer n := by
  rw [Given.integerValue?]
  split
  case isTrue h => simp [h, eq_comm]
  case isFalse h => simp [h]

variable {g : Given} {n : Int} {unset t : Milliseconds}

/-- A number of 64 bits is accepted as a length of time if it is not negative. -/
theorem Writes.timeout?_given (h : Writes given .empty d) (hg : g ∈ given)
    (hvalue : g.value? = Given.integerValue? n) :
    timeout? d g.key unset = some t ↔
      (0 ≤ n ∧ n < 9223372036854775808) ∧ (t.count : Int) = n := by
  obtain ⟨v, hv, hget⟩ := h.get?_key g hg
  rw [hvalue, integerValue?_eq_some_iff] at hv
  obtain ⟨⟨-, hgreatest⟩, rfl⟩ := hv
  have hlt : n < 9223372036854775808 := Int.lt_of_le_of_lt hgreatest (by decide)
  have heq : timeout? d g.key unset = if 0 ≤ n then some ⟨n.toNat⟩ else none := by
    simp [timeout?, hget]
  obtain ⟨count⟩ := t
  rw [heq]
  split
  case isTrue hpos =>
    simp only [Option.some.injEq, Milliseconds.mk.injEq]
    omega
  case isFalse hneg =>
    simp only [reduceCtorEq, false_iff]
    omega

theorem Writes.timeout?_absent (h : Writes given .empty d) {key : String}
    (hkey : key ∉ given.map Given.key) : timeout? d key unset = some unset := by
  simp [timeout?, h.get?_absent hkey]

theorem ofDocument?_eq_some_iff :
    ofDocument? d = some s ↔
      allKnown d = true ∧ bus? d = some s.bus ∧ service? d = some s.service ∧
        timeout? d "call_timeout_ms" default.callTimeout = some s.callTimeout ∧
        timeout? d "process_timeout_ms" default.processTimeout = some s.processTimeout := by
  obtain ⟨bus, service, callTimeout, processTimeout⟩ := s
  rw [ofDocument?]
  split
  case isTrue h =>
    simp only [Option.bind_eq_bind, Option.bind_eq_some_iff, Option.pure_def, Option.some.injEq,
      Settings.mk.injEq]
    simp [h]
  case isFalse h => simp [h]

/-- What is given is accepted, and it is what is set. -/
theorem Writes.setting?_given (h : Writes given .empty d) (hs : ofDocument? d = some s)
    (hg : g ∈ given) : g.IsValid ∧ setting? s g.key = some g := by
  obtain ⟨-, hbus, hservice, hcall, hprocess⟩ := ofDocument?_eq_some_iff.mp hs
  cases g with
  | bus name =>
    rw [h.bus?_given hg, ofText?_eq_some_iff] at hbus
    refine ⟨hbus.imp And.left And.left, ?_⟩
    obtain ⟨rfl, hb⟩ | ⟨rfl, hb⟩ := hbus <;> simp [setting?, Given.key, hb, busName]
  | service name =>
    rw [h.service?_given hg] at hservice
    exact ⟨trivial, by simp [setting?, Given.key, Option.some.inj hservice]⟩
  | callTimeout n =>
    obtain ⟨hvalid, hcount⟩ := (h.timeout?_given hg rfl).mp hcall
    exact ⟨hvalid, by simp [setting?, Given.key, hcount]⟩
  | processTimeout n =>
    obtain ⟨hvalid, hcount⟩ := (h.timeout?_given hg rfl).mp hprocess
    exact ⟨hvalid, by simp [setting?, Given.key, hcount]⟩

/-- A key that is not given has its default. -/
theorem Writes.setting?_absent (h : Writes given .empty d) (hs : ofDocument? d = some s)
    {key : String} (hkey : key ∉ given.map Given.key) : setting? s key = setting? default key := by
  obtain ⟨-, hbus, hservice, hcall, hprocess⟩ := ofDocument?_eq_some_iff.mp hs
  rw [setting?, setting?]
  split
  case isTrue hname =>
    rw [h.bus?_absent (hname ▸ hkey)] at hbus
    rw [Option.some.inj hbus]
  case isFalse =>
    split
    case isTrue hname =>
      rw [h.service?_absent (hname ▸ hkey)] at hservice
      rw [Option.some.inj hservice]
    case isFalse =>
      split
      case isTrue hname =>
        rw [h.timeout?_absent (hname ▸ hkey)] at hcall
        rw [Option.some.inj hcall]
      case isFalse =>
        split
        case isTrue hname =>
          rw [h.timeout?_absent (hname ▸ hkey)] at hprocess
          rw [Option.some.inj hprocess]
        case isFalse => rfl

/-- Settings that are the same under every key are the same. -/
theorem eq_of_setting? {s' : Settings} (h : ∀ key, setting? s key = setting? s' key) : s = s' := by
  obtain ⟨bus, service, ⟨callTimeout⟩, ⟨processTimeout⟩⟩ := s
  obtain ⟨bus', service', ⟨callTimeout'⟩, ⟨processTimeout'⟩⟩ := s'
  have hname : busName bus = busName bus' := by simpa [setting?] using h "bus"
  have hbus : bus = bus' := by cases bus <;> cases bus' <;> simp [busName] at hname ⊢
  have hservice : service = service' := by simpa [setting?] using h "service"
  have hcall : callTimeout = callTimeout' := by simpa [setting?] using h "call_timeout_ms"
  have hprocess : processTimeout = processTimeout' := by
    simpa [setting?] using h "process_timeout_ms"
  rw [hbus, hservice, hcall, hprocess]

theorem Writes.exists_bus? (h : Writes given .empty d) (hvalid : ∀ g ∈ given, g.IsValid) :
    ∃ b, bus? d = some b := by
  by_cases hkey : "bus" ∈ given.map Given.key
  · obtain ⟨g, hg, hname⟩ := List.mem_map.mp hkey
    cases g with
    | bus name =>
      rw [h.bus?_given hg]
      obtain hsystem | hsession := hvalid _ hg
      · exact ⟨.system, ofText?_eq_some_iff.mpr (.inl ⟨hsystem, rfl⟩)⟩
      · exact ⟨.session, ofText?_eq_some_iff.mpr (.inr ⟨hsession, rfl⟩)⟩
    | _ => simp [Given.key] at hname
  · exact ⟨_, h.bus?_absent hkey⟩

theorem Writes.exists_service? (h : Writes given .empty d) : ∃ name, service? d = some name := by
  by_cases hkey : "service" ∈ given.map Given.key
  · obtain ⟨g, hg, hname⟩ := List.mem_map.mp hkey
    cases g with
    | service name => exact ⟨name, h.service?_given hg⟩
    | _ => simp [Given.key] at hname
  · exact ⟨_, h.service?_absent hkey⟩

theorem Writes.exists_timeout? (h : Writes given .empty d) {key : String}
    (hkey : ∀ g ∈ given, g.key = key →
      ∃ n, g.value? = Given.integerValue? n ∧ 0 ≤ n ∧ n < 9223372036854775808) :
    ∃ t, timeout? d key unset = some t := by
  by_cases hmem : key ∈ given.map Given.key
  · obtain ⟨g, hg, rfl⟩ := List.mem_map.mp hmem
    obtain ⟨n, hvalue, hn⟩ := hkey g hg rfl
    exact ⟨⟨n.toNat⟩, (h.timeout?_given hg hvalue).mpr ⟨hn, Int.toNat_of_nonneg hn.1⟩⟩
  · exact ⟨_, h.timeout?_absent hmem⟩

/-- If all that is given is accepted, there are settings. -/
theorem Writes.exists_settings (h : Writes given .empty d) (hvalid : ∀ g ∈ given, g.IsValid) :
    ∃ s, ofDocument? d = some s := by
  have hcall : ∃ t, timeout? d "call_timeout_ms" default.callTimeout = some t := by
    refine h.exists_timeout? fun g hg hname => ?_
    cases g with
    | callTimeout n => exact ⟨n, rfl, hvalid _ hg⟩
    | _ => simp [Given.key] at hname
  have hprocess : ∃ t, timeout? d "process_timeout_ms" default.processTimeout = some t := by
    refine h.exists_timeout? fun g hg hname => ?_
    cases g with
    | processTimeout n => exact ⟨n, rfl, hvalid _ hg⟩
    | _ => simp [Given.key] at hname
  obtain ⟨bus, hbus⟩ := h.exists_bus? hvalid
  obtain ⟨service, hservice⟩ := h.exists_service?
  obtain ⟨callTimeout, hcall⟩ := hcall
  obtain ⟨processTimeout, hprocess⟩ := hprocess
  exact ⟨⟨bus, service, callTimeout, processTimeout⟩,
    ofDocument?_eq_some_iff.mpr ⟨h.allKnown, hbus, hservice, hcall, hprocess⟩⟩

end Settings

end Positioning.Settings
