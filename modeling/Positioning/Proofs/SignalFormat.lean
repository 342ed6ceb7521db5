import Mathlib.Data.List.Forall2
import Positioning.Daemon.Method
import Positioning.Proofs.Bus.Delivery

/-!
# The format of signals

A signal carries the arguments that its kind declares, and is read back from them. Arguments are
read one at a time: the first that is missing or of another type than declared is where reading
fails, and arguments behind the declared ones are not looked at. Arrays alone are lenient: an array
of whatever elements is read as far as its elements fit.

## Main definitions

- `Wire.IsTyped` says that a type is read from the values of one signature and from no others.
- `Wire.Mismatch.IsFirst` says that a mismatch is about the first argument that is not as declared.
- `SignalKind.types` lists the declared types of a kind.

## Main statements

- `Wire.Reads.next`: what reading one argument and going on comes to.
- `Position.ofSignal_toSignal` and its siblings: readings are read back from their signals.
- `SignalKind.decode_encode`: what is read from the arguments of a payload.
- `SignalKind.wire_format`: which messages are read as a signal of a kind, and what is read.
-/

namespace Positioning

open Wire

namespace Wire

/-! ## Texts -/

theorem carried_of_not_mem {s : String} (h : '\x00' ∉ s.toList) : carried s = s := by
  have hchars : carriedChars s.toList = s.toList := by
    apply carriedChars_of_forall
    intro c hc hnul
    exact h (hnul ▸ hc)
  rw [carried, hchars, String.ofList_toList]

/-! ## Types -/

namespace Signature

/-- The outermost type of what a signature describes. -/
def kind : Signature → Kind
  | byte => .byte
  | bool => .bool
  | int16 => .int16
  | uint16 => .uint16
  | int32 => .int32
  | uint32 => .uint32
  | int64 => .int64
  | uint64 => .uint64
  | double => .double
  | string => .string
  | objectPath => .objectPath
  | variant => .variant
  | array _ => .array
  | struct _ => .struct

end Signature

/-- Values of a type are read from the values of one signature. -/
structure IsTyped (α : Type) [Argument α] (type : Signature) : Prop where
  kind : Argument.kind α = type.kind
  reads_iff : ∀ v, (∃ a : α, Argument.ofValue? v = some a) ↔ v.signature = type

theorem isTyped_int32 : IsTyped Int32 .int32 :=
  ⟨rfl, fun v => by cases v <;> simp [Argument.ofValue?, Value.signature]⟩

theorem isTyped_bool : IsTyped Bool .bool :=
  ⟨rfl, fun v => by cases v <;> simp [Argument.ofValue?, Value.signature]⟩

theorem isTyped_double : IsTyped Binary64 .double :=
  ⟨rfl, fun v => by cases v <;> simp [Argument.ofValue?, Value.signature]⟩

theorem isTyped_string : IsTyped String .string :=
  ⟨rfl, fun v => by cases v <;> simp [Argument.ofValue?, Value.signature]⟩

/-! ## Reading in order -/

/-- The mismatch is about the first argument that is missing or of another type than declared. -/
structure Mismatch.IsFirst (m : Mismatch) (types : List Signature) (arguments : List Value) :
    Prop where
  before : ∀ i < m.position, arguments[i]?.map Value.signature = types[i]?
  expected : types[m.position]?.map Signature.kind = some m.expected
  differs : arguments[m.position]?.map Value.signature ≠ types[m.position]?
  found : m.found = arguments[m.position]?.map Value.kind

theorem isPrefix_map_signature_iff {types : List Signature} {arguments : List Value} :
    types <+: arguments.map Value.signature ↔
      ∀ i < types.length, arguments[i]?.map Value.signature = types[i]? := by
  rw [List.prefix_iff_getElem?]
  constructor
  · intro h i hi
    rw [← List.getElem?_map, h i hi, List.getElem?_eq_getElem hi]
  · intro h i hi
    rw [List.getElem?_map, h i hi, List.getElem?_eq_getElem hi]

theorem Mismatch.IsFirst.not_isPrefix {m : Mismatch} {types : List Signature}
    {arguments : List Value} (h : m.IsFirst types arguments) :
    ¬ types <+: arguments.map Value.signature := by
  intro hprefix
  have hlt : m.position < types.length := by
    by_contra hge
    have hexpected := h.expected
    rw [List.getElem?_eq_none (Nat.le_of_not_lt hge)] at hexpected
    cases hexpected
  exact h.differs (isPrefix_map_signature_iff.mp hprefix m.position hlt)

/-- Reading that has come to a position, and has found the arguments before it as declared, ends
well if the others are too, and at the first that is not otherwise. -/
def Reads {β : Type} (types : List Signature) (arguments : List Value) (position : Nat)
    (r : Except Mismatch β) : Prop :=
  (∀ i < position, arguments[i]?.map Value.signature = types[i]?) →
    ((∃ b, r = .ok b) ∧ types <+: arguments.map Value.signature) ∨
      ∃ m, r = .error m ∧ m.IsFirst types arguments

section Reads

variable {α β : Type} [Argument α] {types : List Signature} {arguments : List Value}
  {position : Nat} {type : Signature}

theorem Reads.done (b : β) : Reads types arguments types.length (.ok b) := by
  intro hbefore
  exact .inl ⟨⟨b, rfl⟩, isPrefix_map_signature_iff.mpr hbefore⟩

/-- An argument is read, and reading goes on with it, or it is the first that is not as declared. -/
theorem Reads.next {f : α → Except Mismatch β} (htype : types[position]? = some type)
    (htyped : IsTyped α type) (hrest : ∀ a, Reads types arguments (position + 1) (f a)) :
    Reads types arguments position (argument arguments position >>= f) := by
  intro hbefore
  by_cases hsame : arguments[position]?.map Value.signature = some type
  · -- The argument is as declared, so all of them up to the next position are.
    obtain ⟨v, hv, hsignature⟩ := Option.map_eq_some_iff.mp hsame
    obtain ⟨a, ha⟩ := (htyped.reads_iff v).mpr hsignature
    have hread : (argument arguments position : Except Mismatch α) = .ok a := by
      simp only [argument, hv, ha]
    rw [hread]
    apply hrest a
    intro i hi
    rcases Nat.lt_succ_iff_lt_or_eq.mp hi with hlt | rfl
    · exact hbefore i hlt
    · rw [hsame, htype]
  · have herror : (argument arguments position : Except Mismatch α) =
        .error ⟨position, Argument.kind α, arguments[position]?.map Value.kind⟩ := by
      cases hv : arguments[position]? with
      | none => simp only [argument, hv, Option.map_none]
      | some v =>
        have hnone : (Argument.ofValue? v : Option α) = none := by
          apply Option.eq_none_iff_forall_not_mem.mpr
          intro a ha
          apply hsame
          rw [hv, Option.map_some, (htyped.reads_iff v).mp ⟨a, ha⟩]
        simp only [argument, hv, hnone, Option.map_some]
    rw [herror]
    refine .inr ⟨_, rfl, hbefore, ?_, ?_, rfl⟩
    · show types[position]?.map Signature.kind = some (Argument.kind α)
      rw [htype, htyped.kind, Option.map_some]
    · show arguments[position]?.map Value.signature ≠ types[position]?
      rw [htype]
      exact hsame

theorem Reads.single (htyped : IsTyped α type) :
    Reads [type] arguments 0 (argument arguments 0 : Except Mismatch α) := by
  have hnext : Reads [type] arguments 0 (argument arguments 0 >>= fun a : α => .ok a) :=
    .next rfl htyped fun a => .done a
  rwa [show (argument arguments 0 >>= fun a : α => .ok a) = argument arguments 0 from
    bind_pure _] at hnext

end Reads

/-! ## Arrays -/

theorem readItems_map {α γ : Type} [Argument α] {f : γ → Value} {g : γ → α}
    (h : ∀ c, Argument.ofValue? (f c) = some (g c)) (cs : List γ) :
    readItems (cs.map f) = cs.map g := by
  induction cs with
  | nil => rfl
  | cons c cs ih => rw [List.map_cons, readItems, h, ih, List.map_cons]

theorem forall₂_readItems {α : Type} [Argument α] {items : List Value}
    (h : ∀ v ∈ items, ∃ a : α, Argument.ofValue? v = some a) :
    List.Forall₂ (fun v (a : α) => Argument.ofValue? v = some a) items (readItems items) := by
  induction items with
  | nil => exact .nil
  | cons v items ih =>
    obtain ⟨a, ha⟩ := h v List.mem_cons_self
    rw [readItems, ha]
    exact .cons ha (ih fun v hv => h v (List.mem_cons_of_mem _ hv))

theorem readItems_eq_nil {α : Type} [Argument α] {items : List Value}
    (h : ∀ v ∈ items, ¬ ∃ a : α, Argument.ofValue? v = some a) :
    (readItems items : List α) = [] := by
  cases items with
  | nil => rfl
  | cons v items =>
    have hnone : (Argument.ofValue? v : Option α) = none := by
      cases hv : (Argument.ofValue? v : Option α) with
      | none => rfl
      | some a => exact absurd ⟨a, hv⟩ (h v List.mem_cons_self)
    rw [readItems, hnone]

end Wire

namespace Satellite

/-- The value is a structure that begins with the members of the satellite. -/
def IsCutOf (s : Satellite) (v : Value) : Prop :=
  ∃ more, v = .struct (.uint32 s.id :: .bool s.inUse :: .uint32 s.elevation :: .uint32 s.azimuth ::
    .uint32 s.snr :: more)

theorem ofValue?_eq_some_iff {s : Satellite} {v : Value} :
    Argument.ofValue? v = some s ↔ s.IsCutOf v := by
  constructor
  · intro h
    cases v with
    | struct members =>
      simp only [Argument.ofValue?, satelliteOfMembers?] at h
      split at h
      · obtain rfl := Option.some.inj h
        exact ⟨_, rfl⟩
      · cases h
    | _ => cases h
  · rintro ⟨more, rfl⟩
    rfl

end Satellite

namespace Wire

/-- The type of structures that begin like a satellite. -/
def Signature.BeginsAsSatellite (type : Signature) : Prop :=
  ∃ more, type = .struct (.uint32 :: .bool :: .uint32 :: .uint32 :: .uint32 :: more)

theorem Value.signatures_eq_cons {members : List Value} {type : Signature} {types : List Signature}
    (h : signatures members = type :: types) :
    ∃ v rest, members = v :: rest ∧ v.signature = type ∧ signatures rest = types := by
  cases members with
  | nil => cases h
  | cons v rest =>
    obtain ⟨hfirst, hrest⟩ := List.cons.inj h
    exact ⟨v, rest, rfl, hfirst, hrest⟩

theorem Value.eq_uint32_of_signature {v : Value} (h : v.signature = .uint32) :
    ∃ n, v = .uint32 n := by
  cases v <;> simp [signature] at h
  exact ⟨_, rfl⟩

theorem Value.eq_bool_of_signature {v : Value} (h : v.signature = .bool) : ∃ b, v = .bool b := by
  cases v <;> simp [signature] at h
  exact ⟨_, rfl⟩

/-- A satellite is read from every structure that begins like one, and from nothing else. -/
theorem exists_satellite_iff {v : Value} :
    (∃ s : Satellite, Argument.ofValue? v = some s) ↔ v.signature.BeginsAsSatellite := by
  simp only [Satellite.ofValue?_eq_some_iff]
  constructor
  · rintro ⟨s, more, rfl⟩
    exact ⟨Value.signatures more, rfl⟩
  · rintro ⟨more, h⟩
    cases v with
    | struct members =>
      simp only [Value.signature, Signature.struct.injEq] at h
      obtain ⟨v₁, rest₁, rfl, h₁, hrest₁⟩ := Value.signatures_eq_cons h
      obtain ⟨v₂, rest₂, rfl, h₂, hrest₂⟩ := Value.signatures_eq_cons hrest₁
      obtain ⟨v₃, rest₃, rfl, h₃, hrest₃⟩ := Value.signatures_eq_cons hrest₂
      obtain ⟨v₄, rest₄, rfl, h₄, hrest₄⟩ := Value.signatures_eq_cons hrest₃
      obtain ⟨v₅, rest₅, rfl, h₅, _⟩ := Value.signatures_eq_cons hrest₄
      obtain ⟨id, rfl⟩ := Value.eq_uint32_of_signature h₁
      obtain ⟨inUse, rfl⟩ := Value.eq_bool_of_signature h₂
      obtain ⟨elevation, rfl⟩ := Value.eq_uint32_of_signature h₃
      obtain ⟨azimuth, rfl⟩ := Value.eq_uint32_of_signature h₄
      obtain ⟨snr, rfl⟩ := Value.eq_uint32_of_signature h₅
      exact ⟨⟨id, inUse, elevation, azimuth, snr⟩, rest₅, rfl⟩
    | _ => simp [Value.signature] at h

/-- What is read from an array whose items are all of its element type. -/
theorem readItems_satellite {element : Signature} {items : List Value}
    (h : ∀ v ∈ items, v.signature = element) :
    (element.BeginsAsSatellite ∧
        List.Forall₂ (fun v (s : Satellite) => s.IsCutOf v) items (readItems items)) ∨
      (¬ element.BeginsAsSatellite ∧ (readItems items : List Satellite) = []) := by
  by_cases helement : element.BeginsAsSatellite
  · refine .inl ⟨helement, ?_⟩
    have hitems : ∀ v ∈ items, ∃ s : Satellite, Argument.ofValue? v = some s := by
      intro v hv
      rw [exists_satellite_iff, h v hv]
      exact helement
    exact (forall₂_readItems hitems).imp fun _ _ => Satellite.ofValue?_eq_some_iff.mp
  · refine .inr ⟨helement, readItems_eq_nil ?_⟩
    intro v hv
    rw [exists_satellite_iff, h v hv]
    exact helement

end Wire

/-! ## Readings -/

namespace FieldWord

/-- Three flags are read back from their word. -/
theorem flag_ofFlags (first second third : Bool) :
    flag (ofFlags first second third) 0 = first ∧ flag (ofFlags first second third) 1 = second ∧
      flag (ofFlags first second third) 2 = third := by
  cases first <;> cases second <;> cases third <;> decide

end FieldWord

theorem Position.ofSignal_toSignal (p : Position) : Position.ofSignal p.toSignal = p := by
  obtain ⟨hfirst, hsecond, hthird⟩ :=
    FieldWord.flag_ofFlags p.latitude.isSet p.longitude.isSet p.altitude.isSet
  simp only [ofSignal, toSignal, fields, hfirst, hsecond, hthird]

theorem Course.ofSignal_toSignal (c : Course) : Course.ofSignal c.toSignal = c := by
  obtain ⟨hfirst, hsecond, hthird⟩ :=
    FieldWord.flag_ofFlags c.speed.isSet c.direction.isSet c.climb.isSet
  simp only [ofSignal, toSignal, fields, hfirst, hsecond, hthird]

theorem Accuracy.ofSignal_toSignal (a : Accuracy) : Accuracy.ofSignal a.toSignal = a := by
  obtain ⟨hfirst, hsecond, hthird⟩ :=
    FieldWord.flag_ofFlags a.position.isSet a.horizontal.isSet a.vertical.isSet
  simp only [ofSignal, toSignal, fields, hfirst, hsecond, hthird]

theorem FixStatus.ofInt32?_toInt32 (status : FixStatus) :
    FixStatus.ofInt32? status.toInt32 = some status := by
  cases status <;> decide

namespace SignalKind

/-! ## Payloads -/

/-- The declared types of the arguments of a kind. -/
def types (kind : SignalKind) : List Signature :=
  kind.parameters.map Parameter.type

/-- The texts in a payload. -/
def texts : (kind : SignalKind) → kind.Payload → List String
  | deviceAdded, (device : String) => [device]
  | deviceRemoved, (device : String) => [device]
  | _, _ => []

/-- A payload as the wire carries it. -/
def carried : (kind : SignalKind) → kind.Payload → kind.Payload
  | deviceAdded, (device : String) => Wire.carried device
  | deviceRemoved, (device : String) => Wire.carried device
  | _, payload => payload

theorem carried_of_texts {kind : SignalKind} {payload : kind.Payload}
    (h : ∀ text ∈ kind.texts payload, '\x00' ∉ text.toList) : kind.carried payload = payload := by
  cases kind with
  | deviceAdded => exact carried_of_not_mem (h _ (List.mem_singleton_self _))
  | deviceRemoved => exact carried_of_not_mem (h _ (List.mem_singleton_self _))
  | _ => rfl

/-- A payload is read from its arguments as the wire carries it. -/
theorem decode_encode (kind : SignalKind) (payload : kind.Payload) :
    kind.decode (kind.encode payload) = .ok (kind.carried payload) := by
  cases kind with
  | satellitesChanged =>
    have hread : ∀ view : List Satellite, readItems (view.map Argument.toValue) = view := by
      intro view
      exact (readItems_map (g := id) (fun _ => rfl) view).trans (List.map_id view)
    exact congrArg Except.ok (hread payload)
  | _ => rfl

theorem read?_message (kind : SignalKind) (path : ObjectPath) (payload : kind.Payload) :
    kind.read? (kind.message path payload) = some (kind.carried payload) := by
  have hnamed : kind.isNamedBy (kind.message path payload) = true := by
    simp [isNamedBy, message]
  rw [read?, if_pos hnamed, message, decode_encode]
  rfl

/-- A message is read as a signal of no other kind than its own. -/
theorem read?_message_of_ne {kind sent : SignalKind} (h : kind ≠ sent) (path : ObjectPath)
    (payload : sent.Payload) : kind.read? (sent.message path payload) = none := by
  have hmember : sent.member ≠ kind.member := fun heq => h (member_injective heq.symm)
  have hnamed : kind.isNamedBy (sent.message path payload) = false := by
    simp [isNamedBy, message, hmember]
  rw [read?, hnamed]
  rfl

/-! ## Arguments -/

theorem decode_take (kind : SignalKind) (arguments : List Value) :
    kind.decode (arguments.take kind.types.length) = kind.decode arguments := by
  have htake : ∀ {α : Type} [Argument α] {n i : Nat}, i < n →
      (argument (arguments.take n) i : Except Mismatch α) = argument arguments i := by
    intro α _ n i hi
    simp only [argument, List.getElem?_take_of_lt hi]
  cases kind <;> simp [decode, types, parameters, htake] <;> rfl

theorem reads_decode {kind : SignalKind} (h : kind ≠ .satellitesChanged) (arguments : List Value) :
    Reads kind.types arguments 0 (kind.decode arguments) := by
  cases kind with
  | positionChanged =>
    exact .next rfl isTyped_int32 fun _ => .next rfl isTyped_int32 fun _ =>
      .next rfl isTyped_double fun _ => .next rfl isTyped_double fun _ =>
      .next rfl isTyped_double fun _ => .done _
  | courseChanged =>
    exact .next rfl isTyped_int32 fun _ => .next rfl isTyped_int32 fun _ =>
      .next rfl isTyped_double fun _ => .next rfl isTyped_double fun _ =>
      .next rfl isTyped_double fun _ => .done _
  | accuracyChanged =>
    exact .next rfl isTyped_int32 fun _ => .next rfl isTyped_double fun _ =>
      .next rfl isTyped_double fun _ => .next rfl isTyped_double fun _ => .done _
  | satellitesChanged => exact absurd rfl h
  | timeChanged => exact Reads.single (α := Int32) isTyped_int32
  | connectionStatusChanged => exact Reads.single (α := Bool) isTyped_bool
  | fixStatusChanged => exact Reads.single (α := Int32) isTyped_int32
  | deviceAdded => exact Reads.single (α := String) isTyped_string
  | deviceRemoved => exact Reads.single (α := String) isTyped_string

/-- A kind without an array is read from the arguments that begin as declared, and fails at the
first argument that is not as declared. -/
theorem decode_eq_ok_iff {kind : SignalKind} (h : kind ≠ .satellitesChanged)
    (arguments : List Value) :
    ((∃ payload, kind.decode arguments = .ok payload) ↔
        kind.types <+: arguments.map Value.signature) ∧
      ∀ m, kind.decode arguments = .error m → m.IsFirst kind.types arguments := by
  rcases reads_decode h arguments (fun i hi => absurd hi (Nat.not_lt_zero i)) with
    ⟨⟨payload, hok⟩, hprefix⟩ | ⟨m, herror, hfirst⟩
  · rw [hok]
    exact ⟨⟨fun _ => hprefix, fun _ => ⟨payload, rfl⟩⟩, fun m hm => by cases hm⟩
  · rw [herror]
    refine ⟨⟨?_, fun hprefix => absurd hprefix hfirst.not_isPrefix⟩, ?_⟩
    · rintro ⟨payload, hok⟩
      cases hok
    · intro m' hm'
      rwa [← Except.error.inj hm']

/-- Satellites are read from an array and from nothing else. -/
theorem decode_satellites (arguments : List Value) :
    (∃ element items, arguments[0]? = some (.array element items) ∧
        satellitesChanged.decode arguments = .ok (readItems items : List Satellite)) ∨
      (∀ element items, arguments[0]? ≠ some (.array element items)) ∧
        satellitesChanged.decode arguments =
          .error ⟨0, .array, arguments[0]?.map Value.kind⟩ := by
  simp only [decode, argument]
  cases hfirst : arguments[0]? with
  | none => exact .inr ⟨by simp, rfl⟩
  | some v =>
    cases v with
    | array element items => exact .inl ⟨element, items, rfl, rfl⟩
    | _ => exact .inr ⟨by simp, rfl⟩

/-- **Wire format.** Of the messages that are emitted, those of a kind are read as signals of the
kind, and as what was sent; no others are. Reading looks at as many arguments as the kind declares.
A kind without an array is read exactly from arguments that begin as declared, and fails at the
first that does not agree. Satellites are read exactly from an array: from structures that begin
like satellites each as its beginning, and none from an array of other elements. -/
theorem wire_format (kind : SignalKind) (arguments : List Value) :
    (∀ (sent : SignalKind) (payload : sent.Payload) (path : ObjectPath) (read : kind.Payload),
      (∀ text ∈ sent.texts payload, '\x00' ∉ text.toList) →
      (kind.read? (sent.message path payload) = some read ↔
        (⟨kind, read⟩ : (k : SignalKind) × k.Payload) = ⟨sent, payload⟩)) ∧
    (∀ other : List Value, other.take kind.types.length = arguments.take kind.types.length →
      kind.decode other = kind.decode arguments) ∧
    (kind ≠ .satellitesChanged →
      ((∃ payload, kind.decode arguments = .ok payload) ↔
        kind.types <+: arguments.map Value.signature) ∧
      ∀ m, kind.decode arguments = .error m → m.IsFirst kind.types arguments) ∧
    ((∃ view, satellitesChanged.decode arguments = .ok view) ↔
      ∃ element items, arguments[0]? = some (.array element items)) ∧
    ∀ element items, arguments[0]? = some (.array element items) →
      (∀ v ∈ items, v.signature = element) →
      ∃ view : List Satellite, satellitesChanged.decode arguments = .ok view ∧
        ((element.BeginsAsSatellite ∧ List.Forall₂ (fun v s => s.IsCutOf v) items view) ∨
          (¬ element.BeginsAsSatellite ∧ view = [])) := by
  refine ⟨?_, ?_, fun hkind => decode_eq_ok_iff hkind arguments, ?_, ?_⟩
  · intro sent payload path read htexts
    by_cases hsame : kind = sent
    · subst hsame
      rw [read?_message, carried_of_texts htexts]
      simp [eq_comm]
    · rw [read?_message_of_ne hsame]
      constructor
      · intro h
        cases h
      · intro h
        exact absurd (congrArg Sigma.fst h) hsame
  · intro other hother
    rw [← decode_take, hother, decode_take]
  · rcases decode_satellites arguments with ⟨element, items, harray, hok⟩ | ⟨hnone, herror⟩
    · exact ⟨fun _ => ⟨element, items, harray⟩, fun _ => ⟨_, hok⟩⟩
    · rw [herror]
      refine ⟨?_, ?_⟩
      · rintro ⟨view, hok⟩
        cases hok
      · rintro ⟨element, items, harray⟩
        exact absurd harray (hnone element items)
  · intro element items harray hitems
    rcases decode_satellites arguments with ⟨element', items', harray', hok⟩ | ⟨hnone, _⟩
    · obtain ⟨rfl, rfl⟩ := Value.array.inj (Option.some.inj (harray.symm.trans harray'))
      exact ⟨_, hok, readItems_satellite hitems⟩
    · exact absurd harray (hnone element items)

/-- A satellite with a name behind its members, in front of a number. -/
def namedSatellite : List Value :=
  [.array (.struct [.uint32, .bool, .uint32, .uint32, .uint32, .string])
      [.struct [.uint32 7, .bool true, .uint32 40, .uint32 90, .uint32 30, .string "G7"]],
    .int32 5]

/-- A device name arrives, an accuracy with a text for a number fails at the text, and the satellite
with a name is read without it. -/
theorem wire_format_namedSatellite :
    ((∀ text ∈ deviceAdded.texts "gps", '\x00' ∉ text.toList) ∧
      deviceAdded.read? (deviceAdded.message .root "gps") = some "gps") ∧
    (accuracyChanged ≠ .satellitesChanged ∧
      (⟨1, .double, some .string⟩ : Mismatch).IsFirst accuracyChanged.types
        [.int32 3, .string "x", .double ⟨0⟩]) ∧
    ∃ view : List Satellite, satellitesChanged.decode namedSatellite = .ok view ∧
      view.length = 1 := by
  have htexts : ∀ text ∈ deviceAdded.texts "gps", '\x00' ∉ text.toList := by decide
  have hkind : accuracyChanged ≠ .satellitesChanged := by decide
  have hitems : ∀ v ∈ [Value.struct [.uint32 7, .bool true, .uint32 40, .uint32 90, .uint32 30,
      .string "G7"]],
      v.signature = .struct [.uint32, .bool, .uint32, .uint32, .uint32, .string] := by
    intro v hv
    rw [List.mem_singleton.mp hv]
    rfl
  refine ⟨⟨htexts, ?_⟩, ⟨hkind, ?_⟩, ?_⟩
  · exact ((wire_format .deviceAdded []).1 .deviceAdded "gps" .root "gps" htexts).mpr rfl
  · exact ((wire_format .accuracyChanged _).2.2.1 hkind).2 _ rfl
  · obtain ⟨view, hview, ⟨_, hcut⟩ | ⟨hnot, _⟩⟩ :=
      (wire_format .satellitesChanged namedSatellite).2.2.2.2 _ _ rfl hitems
    · exact ⟨view, hview, hcut.length_eq.symm⟩
    · exact absurd ⟨[.string], rfl⟩ hnot

end SignalKind

end Positioning
