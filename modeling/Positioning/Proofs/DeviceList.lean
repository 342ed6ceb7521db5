import Positioning.Proofs.Daemon.Getters
import Positioning.Proofs.Listings
import Positioning.Session

/-!
# The list of devices

The devices that the daemon knows are listed one in a line, each behind its number in brackets. A
number holds no bracket, so the first closing bracket of a line ends the number, whatever the name
behind it looks like. Where there are no devices there is one line that says so, and no numbered
line begins as that one does.

## Main definitions

- `Report.readDevices` reads a list of devices back from its text.

## Main statements

- `Report.lines_devices`: which lines a list has.
- `Report.readDevices_devices`: lists are read back.
- `Session.devices_listed`: what a program gets that asks for the list.
-/

namespace Positioning

namespace Report

open Decimal

/-- What is listed where the daemon knows no devices. -/
def noDevices : String :=
  "No GPS devices found"

/-- The line of a device with its number. -/
def deviceLine (n : ℕ) (device : String) : String :=
  "[" ++ ofNat n ++ "] " ++ device

/-- The device that a line shows: what stands behind the first bracket that closes and a blank. -/
def readDevice (line : String) : String :=
  String.ofList ((line.toList.dropWhile (· ≠ ']')).drop 2)

/-- The devices that a list shows. -/
def readDevices (text : String) : List String :=
  if text = noDevices then [] else (Text.lines text).map readDevice

theorem getElem?_deviceLines (n i : ℕ) (known : List String) :
    (deviceLines n known)[i]? = known[i]?.map (deviceLine (n + i)) := by
  induction known generalizing n i with
  | nil => rfl
  | cons device known ih =>
    cases i with
    | zero => rfl
    | succ i =>
      rw [deviceLines, List.getElem?_cons_succ, List.getElem?_cons_succ, ih, Nat.add_right_comm,
        Nat.add_assoc]

theorem length_deviceLines (n : ℕ) (known : List String) :
    (deviceLines n known).length = known.length := by
  induction known generalizing n with
  | nil => rfl
  | cons device known ih => rw [deviceLines, List.length_cons, List.length_cons, ih]

/-- Every line of a list is the line of one of the devices. -/
theorem exists_of_mem_deviceLines {n : ℕ} {known : List String} {line : String}
    (h : line ∈ deviceLines n known) : ∃ m, ∃ device ∈ known, line = deviceLine m device := by
  obtain ⟨i, hi⟩ := List.getElem?_of_mem h
  rw [getElem?_deviceLines] at hi
  obtain ⟨device, hdevice, rfl⟩ := Option.map_eq_some_iff.mp hi
  exact ⟨n + i, device, List.mem_of_getElem? hdevice, rfl⟩

theorem toList_deviceLine (n : ℕ) (device : String) :
    (deviceLine n device).toList = '[' :: ((ofNat n).toList ++ ']' :: ' ' :: device.toList) := by
  simp [deviceLine]

/-- A line ends with its device, and its number is of one line. -/
theorem newline_not_mem_deviceLine {n : ℕ} {device : String} (h : '\n' ∉ device.toList) :
    '\n' ∉ (deviceLine n device).toList := by
  rw [toList_deviceLine]
  simp [newline_not_mem_ofNat, h]

/-- A device is read from its line, whatever its number and its name. -/
theorem readDevice_deviceLine (n : ℕ) (device : String) :
    readDevice (deviceLine n device) = device := by
  have hdigits : ∀ c ∈ '[' :: (ofNat n).toList, decide (c ≠ ']') = true := by
    intro c hc
    rcases List.mem_cons.mp hc with rfl | hdigit
    · decide
    · have hne : c ≠ ']' := by
        rintro rfl
        exact absurd (isDigit_ofNat n _ hdigit) (by decide)
      simpa using hne
  rw [readDevice, toList_deviceLine, ← List.cons_append, List.dropWhile_append_of_pos hdigits]
  simp

theorem map_readDevice (n : ℕ) (known : List String) :
    (deviceLines n known).map readDevice = known := by
  induction known generalizing n with
  | nil => rfl
  | cons device known ih =>
    rw [deviceLines, List.map_cons, ih]
    exact congrArg (· :: known) (readDevice_deviceLine n device)

/-- A list that is not empty has the lines of its devices. -/
theorem lines_devices {known : List String} (hne : known ≠ [])
    (h : ∀ device ∈ known, '\n' ∉ device.toList) :
    Text.lines (devices known) = deviceLines 1 known := by
  have hlines : deviceLines 1 known ≠ [] := by
    rw [← List.length_pos_iff, length_deviceLines]
    exact List.length_pos_iff.mpr hne
  rw [devices, if_neg (by simpa using hne)]
  refine Text.lines_intercalate hlines fun line hline => ?_
  obtain ⟨m, device, hdevice, rfl⟩ := exists_of_mem_deviceLines hline
  exact newline_not_mem_deviceLine (h device hdevice)

/-- Only the empty list says that there are no devices: the others begin with a bracket. -/
theorem devices_eq_noDevices_iff {known : List String} :
    devices known = noDevices ↔ known = [] := by
  constructor
  · intro htext
    cases known with
    | nil => rfl
    | cons device known =>
      have hhead : (devices (device :: known)).toList.head? = some '[' := by
        cases known <;> simp [devices, deviceLines]
      rw [htext] at hhead
      exact absurd hhead (by decide)
  · rintro rfl
    rfl

/-- Lists are read back. -/
theorem readDevices_devices {known : List String} (h : ∀ device ∈ known, '\n' ∉ device.toList) :
    readDevices (devices known) = known := by
  rw [readDevices]
  split
  · next htext => exact (devices_eq_noDevices_iff.mp htext).symm
  · next htext =>
    rw [lines_devices (mt devices_eq_noDevices_iff.mpr htext) h, map_readDevice]

end Report

namespace Session

variable {ω : Type}

open LocalBus

/-- A program that asks for the list gets the names as they are, as long as they hold no null. It
leaves one record in the log and one call in the journal. -/
theorem run_listDevices {b : LocalBus ω} (hb : b.Reachable)
    (hoffers : b.daemon.offers .discovery .discovery) {known : List String}
    (hnames : ∀ device ∈ known, '\x00' ∉ device.toList) :
    (listDevices bus).run (b.setKnown known) =
      ⟨.ok (Report.devices known),
        [.record ⟨.debug, .session, "daemon knows " ++ Decimal.ofNat known.length ++ " device(s)"⟩],
        (b.setKnown known).note (.call (Method.listDevices.callAt .discovery []))⟩ := by
  have hcarried : (b.setKnown known).daemon.known.map Wire.carried = known :=
    (List.map_congr_left fun device hd => Wire.carried_of_not_mem (hnames device hd)).trans
      (List.map_id _)
  have hasked := Reachable.run_listDevices (hb.next (.setKnown known)) hoffers
  rw [Operation.next, Operation.perform, hcarried] at hasked
  rw [listDevices, Action.run_bind_of_ok _ (congrArg Outcome.result hasked), hasked]
  rfl

/-- **Devices are listed.** Whatever devices the daemon knows, as long as their names hold no line
end and no null, a program that asks for the list gets a text, and nothing changes on the bus but
the journal. The text says that there are no devices exactly if there are none. Else it has a line
for each device, which is its number, counted from one, in brackets and then its name. The devices
are read back from the text, so no two lists give the same text, on whatever buses. -/
theorem devices_listed {b : LocalBus ω} (hb : b.Reachable)
    (hoffers : b.daemon.offers .discovery .discovery) (known : List String)
    (hnames : ∀ device ∈ known, '\n' ∉ device.toList ∧ '\x00' ∉ device.toList) :
    ∃ text,
      (listDevices bus).run (b.setKnown known) =
        ⟨.ok text,
          [.record ⟨.debug, .session,
            "daemon knows " ++ Decimal.ofNat known.length ++ " device(s)"⟩],
          (b.setKnown known).note (.call (Method.listDevices.callAt .discovery []))⟩ ∧
      (text = "No GPS devices found" ↔ known = []) ∧
      (known ≠ [] → (Text.lines text).length = known.length ∧
        ∀ (i : ℕ) (device : String), known[i]? = some device →
          (Text.lines text)[i]? = some ("[" ++ Decimal.ofNat (i + 1) ++ "] " ++ device)) ∧
      Report.readDevices text = known ∧
      ∀ (b' : LocalBus ω) (known' : List String), b'.Reachable →
        b'.daemon.offers .discovery .discovery →
        (∀ device ∈ known', '\n' ∉ device.toList ∧ '\x00' ∉ device.toList) →
        ((listDevices bus).run (b'.setKnown known')).result = .ok text → known' = known := by
  have hlines : ∀ device ∈ known, '\n' ∉ device.toList := fun device hd => (hnames device hd).1
  refine ⟨Report.devices known, run_listDevices hb hoffers fun device hd => (hnames device hd).2,
    Report.devices_eq_noDevices_iff, ?_, Report.readDevices_devices hlines, ?_⟩
  · intro hne
    rw [Report.lines_devices hne hlines]
    refine ⟨Report.length_deviceLines 1 known, fun i device hi => ?_⟩
    rw [Report.getElem?_deviceLines, hi, Nat.add_comm 1 i]
    rfl
  · intro b' known' hb' hoffers' hnames' htext
    rw [run_listDevices hb' hoffers' fun device hd => (hnames' device hd).2] at htext
    have hread := Report.readDevices_devices fun device hd => (hnames' device hd).1
    rw [Ending.ok.inj htext, Report.readDevices_devices hlines] at hread
    exact hread.symm

/-- Names that look like lines of the list, or like the text of an empty one, and one that is
empty. -/
def lookalikes : List String :=
  ["[2] x", "No GPS devices found", "", "[2] x"]

/-- They are listed as they are, and told apart. -/
theorem devices_listed_lookalikes :
    (LocalBus.initial (ω := Unit)).daemon.offers .discovery .discovery ∧
      (∀ device ∈ lookalikes, '\n' ∉ device.toList ∧ '\x00' ∉ device.toList) ∧
      ∃ text, ((listDevices bus).run ((LocalBus.initial (ω := Unit)).setKnown lookalikes)).result =
          .ok text ∧
        text = "[1] [2] x\n[2] No GPS devices found\n[3] \n[4] [2] x" ∧
        (Text.lines text)[3]? = some "[4] [2] x" ∧ Report.readDevices text = lookalikes := by
  have hoffers : (LocalBus.initial (ω := Unit)).daemon.offers .discovery .discovery :=
    ⟨_, rfl, by decide⟩
  have hnames : ∀ device ∈ lookalikes, '\n' ∉ device.toList ∧ '\x00' ∉ device.toList := by decide
  obtain ⟨text, hrun, _, hlines, hread, _⟩ :=
    devices_listed Reachable.initial hoffers lookalikes hnames
  have hresult := congrArg Outcome.result hrun
  have hnumber : "[" ++ Decimal.ofNat (3 + 1) ++ "] " ++ "[2] x" = "[4] [2] x" := by decide +kernel
  refine ⟨hoffers, hnames, text, hresult, ?_, ?_, hread⟩
  · have htext : Report.devices lookalikes = text := Ending.ok.inj hresult
    rw [← htext]
    decide +kernel
  · rw [← hnumber]
    exact (hlines (by decide)).2 3 "[2] x" rfl

end Session

end Positioning
