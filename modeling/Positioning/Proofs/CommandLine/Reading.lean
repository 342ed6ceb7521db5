import Positioning.Proofs.CommandLine.Words

/-!
# Reading a command line word by word

Reading settles an option late, so that what has been given so far is both what was taken in and the
value that waits to be taken in. With these two put together, every word that is accepted adds one
item to what has been given, and every other word ends the reading.

## Main definitions

- `CommandLine.Fits` says what values and devices make together.
- `CommandLine.Progress.values` and `CommandLine.Progress.devices` are what has been given so far.
- `CommandLine.Progress.IsOpen` is the state between two items.

## Main statements

- `CommandLine.acceptDevice_fits_iff`, `CommandLine.acceptAttached_fits_iff`,
  `CommandLine.acceptAwaiting_fits_iff`: an item is accepted if it fits behind the others.
- `CommandLine.readDevices_eq_ok_iff`: behind the end of the options every word is a device.
- `CommandLine.readAll_awaiting_eq_ok_iff`: where a value is awaited, the next word is that value.
-/

namespace Positioning.CommandLine

/-- As many devices as a tool takes, one option at most, and what they make together. -/
def Fits (takesDevice : Bool) (values devices : List String) (given : Arguments) : Prop :=
  values.length ≤ 1 ∧ devices.length = takesDevice.toNat ∧ given = ⟨values.head?, devices.head?⟩

/-! ## What has been given -/

variable {form : Form} {p q : Progress} {given : Arguments}

namespace Progress

/-- The values of the option that have been given, taken in or not. -/
def values (p : Progress) : List String :=
  p.taken.config?.toList ++
    match p.pending with
    | .given value => [value]
    | _ => []

/-- The devices that have been given. -/
def devices (p : Progress) : List String :=
  p.taken.device?.toList

/-- No value is awaited, and no device has been given to a tool that takes none. -/
structure IsOpen (form : Form) (p : Progress) : Prop where
  not_awaiting : p.pending ≠ .awaiting
  length_devices : p.devices.length ≤ form.takesDevice.toNat

/-- The state in which values and a device are taken in. -/
def taking (values : List String) (device? : Option String) : Progress :=
  ⟨⟨values.head?, device?⟩, .nothing⟩

theorem values_taking {values : List String} (h : values.length ≤ 1) (device? : Option String) :
    (taking values device?).values = values := by
  match values, h with
  | [], _ => rfl
  | [_], _ => rfl

/-- The state with a value of the option in wait. -/
def giving (p : Progress) (value : String) : Progress :=
  { p with pending := .given value }

theorem values_awaiting {values : List String} (h : values.length ≤ 1) (device? : Option String)
    (value : String) :
    ({ taking values device? with pending := .awaiting }.giving value).values =
      values ++ [value] := by
  match values, h with
  | [], _ => rfl
  | [_], _ => rfl

theorem settle_eq_ok_iff (h : p.pending ≠ .awaiting) :
    p.settle = .ok q ↔ p.values.length ≤ 1 ∧ q = taking p.values p.taken.device? := by
  obtain ⟨⟨config?, device?⟩, pending⟩ := p
  cases pending with
  | awaiting => exact absurd rfl h
  | nothing => cases config? <;> simp [settle, values, taking, eq_comm]
  | given value => cases config? <;> simp [settle, takeConfig, values, taking, eq_comm]

/-- What has been given is settled if there is one value at most. -/
theorem settle_cases (h : p.pending ≠ .awaiting) :
    (p.values.length ≤ 1 ∧ p.settle = .ok (taking p.values p.taken.device?)) ∨
      (¬ p.values.length ≤ 1 ∧ ∃ stop, p.settle = .error stop) := by
  by_cases hlength : p.values.length ≤ 1
  · exact .inl ⟨hlength, (settle_eq_ok_iff h).mpr ⟨hlength, rfl⟩⟩
  · cases hp : p.settle with
    | error stop => exact .inr ⟨hlength, stop, rfl⟩
    | ok q => exact absurd ((settle_eq_ok_iff h).mp hp).1 hlength

theorem settle_awaiting (h : p.pending = .awaiting) : p.settle = .error .missingValue := by
  rw [settle, h]

theorem acceptDevice_eq_ok_iff (h : p.pending ≠ .awaiting) {device : String} :
    p.acceptDevice form device = .ok q ↔ p.values.length ≤ 1 ∧ form.takesDevice = true ∧
      p.devices = [] ∧ q = taking p.values (some device) := by
  rw [acceptDevice, devices]
  cases form.takesDevice with
  | false => simp
  | true =>
    cases hdevice : p.taken.device? with
    | some _ => simp
    | none =>
      rcases settle_cases h with ⟨hlength, hp⟩ | ⟨hlong, stop, hp⟩
      · simp [hp, hlength, taking, eq_comm]
      · simp [hp, hlong]

/-- An option with its value is accepted if it is the first. -/
theorem acceptOption_attached_eq_ok_iff (h : p.pending ≠ .awaiting) {value : String} :
    p.acceptOption (some value) = .ok q ↔ p.values = [] ∧ q = taking [value] p.taken.device? := by
  obtain ⟨⟨config?, device?⟩, pending⟩ := p
  cases pending with
  | awaiting => exact absurd rfl h
  | nothing =>
    cases config? <;> simp [acceptOption, settle, takeConfig, values, taking, eq_comm]
  | given first =>
    cases config? <;> simp [acceptOption, settle, takeConfig, values, taking]

/-- An option without its value is accepted if there is one before it at most, and its value is
awaited. -/
theorem acceptOption_awaiting_eq_ok_iff (h : p.pending ≠ .awaiting) :
    p.acceptOption none = .ok q ↔ p.values.length ≤ 1 ∧
      q = { taking p.values p.taken.device? with pending := .awaiting } := by
  rw [acceptOption]
  rcases settle_cases h with ⟨hlength, hp⟩ | ⟨hlong, stop, hp⟩
  · simp [hp, hlength, eq_comm]
  · simp [hp, hlong]

theorem finish_eq_ok_iff (h : p.IsOpen form) :
    p.finish form = .ok given ↔ Fits form.takesDevice p.values p.devices given := by
  have hdevices := h.length_devices
  rw [finish, Fits]
  rcases settle_cases h.not_awaiting with ⟨hlength, hp⟩ | ⟨hlong, stop, hp⟩
  · rw [hp]
    rw [devices] at hdevices ⊢
    cases hdevice : p.taken.device? with
    | none => cases form.takesDevice <;> simp [hlength, taking, eq_comm]
    | some device =>
      have htakes : form.takesDevice = true := by
        rw [hdevice] at hdevices
        cases htakes : form.takesDevice
        · simp [htakes] at hdevices
        · rfl
      simp [htakes, hlength, taking, eq_comm]
  · simp [hp, hlong]

end Progress

theorem readDevices_cons_eq_ok_iff {device : String} {words : List String} :
    readDevices form p (device :: words) = .ok given ↔
      ∃ q, p.acceptDevice form device = .ok q ∧ readDevices form q words = .ok given := by
  rw [readDevices]
  cases p.acceptDevice form device <;> simp

theorem readAll_cons_eq_ok_iff {word : String} {words : List String} (hend : word ≠ "--") :
    readAll form p (word :: words) = .ok given ↔
      ∃ q, p.accept form word = .ok q ∧ readAll form q words = .ok given := by
  rw [readAll, if_neg (by exact hend)]
  cases p.accept form word <;> simp

/-! ## One item more -/

variable {device value : String} {more others : List String}

theorem isOpen_of_acceptDevice (h : p.IsOpen form) (hq : p.acceptDevice form device = .ok q) :
    q.IsOpen form := by
  obtain ⟨-, htakes, -, rfl⟩ := (Progress.acceptDevice_eq_ok_iff h.not_awaiting).mp hq
  exact ⟨Pending.noConfusion, by simp [Progress.devices, Progress.taking, htakes]⟩

theorem isOpen_of_acceptAwaiting (h : p.IsOpen form) (hq : p.acceptOption none = .ok q) :
    q.pending = .awaiting ∧ ∀ value, (q.giving value).IsOpen form := by
  obtain ⟨-, rfl⟩ := (Progress.acceptOption_awaiting_eq_ok_iff h.not_awaiting).mp hq
  exact ⟨rfl, fun _ => ⟨Pending.noConfusion, h.length_devices⟩⟩

theorem isOpen_of_acceptAttached (h : p.IsOpen form) (hq : p.acceptOption (some value) = .ok q) :
    q.IsOpen form := by
  obtain ⟨-, rfl⟩ := (Progress.acceptOption_attached_eq_ok_iff h.not_awaiting).mp hq
  exact ⟨Pending.noConfusion, h.length_devices⟩

/-- An accepted device is one more. -/
theorem acceptDevice_fits_iff (h : p.IsOpen form) :
    (∃ q : Progress, p.acceptDevice form device = .ok q ∧
      Fits form.takesDevice (q.values ++ more) (q.devices ++ others) given) ↔
      Fits form.takesDevice (p.values ++ more) (p.devices ++ device :: others) given := by
  simp only [Progress.acceptDevice_eq_ok_iff h.not_awaiting]
  constructor
  · rintro ⟨_, ⟨hlength, -, hdevices, rfl⟩, hfits⟩
    rw [Progress.values_taking hlength] at hfits
    rw [hdevices]
    exact hfits
  · intro hfits
    -- What fits has one device at most, so that none was given before this one.
    have hone := Bool.toNat_le form.takesDevice
    have hvalues := hfits.1
    have hcount := hfits.2.1
    rw [List.length_append] at hvalues
    rw [List.length_append, List.length_cons] at hcount
    have hlength : p.values.length ≤ 1 := by omega
    have htakes : form.takesDevice = true := Bool.toNat_eq_one.mp (by omega)
    have hdevices : p.devices = [] := List.length_eq_zero_iff.mp (by omega)
    refine ⟨_, ⟨hlength, htakes, hdevices, rfl⟩, ?_⟩
    rw [hdevices] at hfits
    rw [Progress.values_taking hlength]
    exact hfits

/-- An accepted option with its value is one more. -/
theorem acceptAttached_fits_iff (h : p.IsOpen form) :
    (∃ q : Progress, p.acceptOption (some value) = .ok q ∧
      Fits form.takesDevice (q.values ++ more) (q.devices ++ others) given) ↔
      Fits form.takesDevice (p.values ++ value :: more) (p.devices ++ others) given := by
  simp only [Progress.acceptOption_attached_eq_ok_iff h.not_awaiting]
  constructor
  · rintro ⟨_, ⟨hvalues, rfl⟩, hfits⟩
    rw [hvalues]
    exact hfits
  · intro hfits
    have hvalues : p.values = [] := by
      have hlength := hfits.1
      rw [List.length_append, List.length_cons] at hlength
      exact List.length_eq_zero_iff.mp (by omega)
    refine ⟨_, ⟨hvalues, rfl⟩, ?_⟩
    rw [hvalues] at hfits
    exact hfits

/-- An accepted option with the value behind it is one more. -/
theorem acceptAwaiting_fits_iff (h : p.IsOpen form) :
    (∃ q : Progress, p.acceptOption none = .ok q ∧
      Fits form.takesDevice ((q.giving value).values ++ more) (q.devices ++ others) given) ↔
      Fits form.takesDevice (p.values ++ value :: more) (p.devices ++ others) given := by
  simp only [Progress.acceptOption_awaiting_eq_ok_iff h.not_awaiting]
  constructor
  · rintro ⟨_, ⟨hlength, rfl⟩, hfits⟩
    rw [Progress.values_awaiting hlength, List.append_assoc] at hfits
    exact hfits
  · intro hfits
    have hvalues := hfits.1
    rw [List.length_append, List.length_cons] at hvalues
    have hlength : p.values.length ≤ 1 := by omega
    refine ⟨_, ⟨hlength, rfl⟩, ?_⟩
    rw [Progress.values_awaiting hlength, List.append_assoc]
    exact hfits

/-- Behind the end of the options, every word adds a device. -/
theorem readDevices_eq_ok_iff (h : p.IsOpen form) (words : List String) :
    readDevices form p words = .ok given ↔
      Fits form.takesDevice p.values (p.devices ++ words) given := by
  induction words generalizing p with
  | nil => rw [readDevices, List.append_nil, Progress.finish_eq_ok_iff h]
  | cons device words ih =>
    have hstep : (∃ q : Progress, p.acceptDevice form device = .ok q ∧
        Fits form.takesDevice (q.values ++ []) (q.devices ++ words) given) ↔
        Fits form.takesDevice (p.values ++ []) (p.devices ++ device :: words) given :=
      acceptDevice_fits_iff h
    simp only [List.append_nil] at hstep
    rw [readDevices_cons_eq_ok_iff, ← hstep]
    exact exists_congr fun q => and_congr_right fun hq => ih (isOpen_of_acceptDevice h hq)

theorem acceptPlain_of_isOpen (h : p.IsOpen form) (word : String) :
    p.acceptPlain form word = p.acceptDevice form word := by
  rw [Progress.acceptPlain]
  split
  · next hawaiting => exact absurd hawaiting h.not_awaiting
  · rfl

theorem accept_of_isPlain {word : String} (h : IsPlain word) :
    p.accept form word = p.acceptPlain form word := by
  rw [Progress.accept, shape_of_isPlain h]

theorem accept_of_configOption? (hform : form.takesConfig = true) {word : String}
    {value? : Option String} (h : configOption? word = some value?) :
    p.accept form word = p.acceptOption value? := by
  rw [configOption?] at h
  rw [Progress.accept]
  cases hshape : shape word with
  | long name attached? =>
    rw [hshape] at h
    obtain ⟨hname, hvalue⟩ := Option.ite_none_right_eq_some.mp h
    rw [← Option.some.inj hvalue]
    simp [Progress.acceptLong, hform, hname]
  | short letter rest =>
    rw [hshape] at h
    obtain ⟨hletter, hvalue⟩ := Option.ite_none_right_eq_some.mp h
    rw [← Option.some.inj hvalue]
    simp [Progress.acceptShort, hform, hletter]
  | _ => simp [hshape] at h

theorem acceptRequest_ne_ok (request : Stop) : p.acceptRequest request ≠ .ok q := by
  rw [Progress.acceptRequest]
  cases p.settle <;> simp

/-- A word that is neither plain nor an option ends the reading. -/
theorem accept_ne_ok {word : String} (hplain : ¬ IsPlain word)
    (hconfig : configOption? word = none) : p.accept form word ≠ .ok q := by
  rw [configOption?] at hconfig
  rw [Progress.accept]
  rcases word_cases word with ⟨rest, h⟩ | ⟨letter, rest, hne, h⟩ | h
  · rw [shape_of_long h] at hconfig ⊢
    have hname : (splitValue rest).1 ≠ "config" := by simpa using hconfig
    show p.acceptLong form _ _ ≠ _
    rw [Progress.acceptLong, if_neg (by simp [hname])]
    split_ifs <;> simp [acceptRequest_ne_ok]
  · rw [shape_of_short h hne] at hconfig ⊢
    have hletter : letter ≠ 'c' := by simpa using hconfig
    show p.acceptShort form _ _ ≠ _
    rw [Progress.acceptShort, if_neg (by simp [hletter])]
    split_ifs <;> simp [acceptRequest_ne_ok]
  · exact absurd h hplain

/-! ## A value that is awaited -/

theorem finish_awaiting (h : p.pending = .awaiting) : p.finish form ≠ .ok given := by
  simp [Progress.finish, Progress.settle_awaiting h]

theorem acceptDevice_awaiting (h : p.pending = .awaiting) : p.acceptDevice form device ≠ .ok q := by
  rw [Progress.acceptDevice, Progress.settle_awaiting h]
  split <;> simp

theorem acceptOption_awaiting (h : p.pending = .awaiting) (value? : Option String) :
    p.acceptOption value? ≠ .ok q := by
  simp [Progress.acceptOption, Progress.settle_awaiting h]

theorem readDevices_awaiting (h : p.pending = .awaiting) (words : List String) :
    readDevices form p words ≠ .ok given := by
  cases words with
  | nil => exact finish_awaiting h
  | cons device words =>
    intro hread
    obtain ⟨q, hq, -⟩ := readDevices_cons_eq_ok_iff.mp hread
    exact acceptDevice_awaiting h hq

theorem accept_awaiting_eq_ok_iff (hform : form.takesConfig = true) (h : p.pending = .awaiting)
    {word : String} : p.accept form word = .ok q ↔ IsPlain word ∧ q = p.giving word := by
  by_cases hplain : IsPlain word
  · rw [accept_of_isPlain hplain, Progress.acceptPlain, h]
    simp [hplain, Progress.giving, eq_comm]
  · refine iff_of_false ?_ fun hword => hplain hword.1
    cases hconfig : configOption? word with
    | none => exact accept_ne_ok hplain hconfig
    | some value? =>
      rw [accept_of_configOption? hform hconfig]
      exact acceptOption_awaiting h value?

/-- Where a value is awaited, a plain word is that value, and nothing else can be read. -/
theorem readAll_awaiting_eq_ok_iff (hform : form.takesConfig = true) (h : p.pending = .awaiting)
    {words : List String} :
    readAll form p words = .ok given ↔ ∃ value behind, words = value :: behind ∧ IsPlain value ∧
      readAll form (p.giving value) behind = .ok given := by
  cases words with
  | nil => exact iff_of_false (finish_awaiting h) fun ⟨_, _, hwords, _⟩ => by cases hwords
  | cons word words =>
    by_cases hend : word = "--"
    · subst hend
      rw [readAll, if_pos (by rfl)]
      refine iff_of_false (readDevices_awaiting h words) ?_
      rintro ⟨value, behind, hwords, hplain, -⟩
      rw [← (List.cons.inj hwords).1] at hplain
      exact not_isPlain_optionsEnd hplain
    · simp only [readAll_cons_eq_ok_iff hend, accept_awaiting_eq_ok_iff hform h]
      aesop

end Positioning.CommandLine
