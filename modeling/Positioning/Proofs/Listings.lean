import Positioning.Proofs.LineSlots

/-!
# Listings

The block of the satellites in view is a summary with one line for each satellite behind it. No line
holds a line end, so a block falls into its lines in one way only, and the line of a satellite is a
form with the four numbers in its slots and a mark behind them where the satellite is in use. So the
satellites are read back from the block, and the two numbers of the summary count lines.

## Main definitions

- `Text.lines` takes a text apart at its line ends.
- `Report.readSatellite` reads the line of a satellite, and `Report.readSatellites` reads a block.

## Main statements

- `Text.lines_intercalate`: lines that are joined are taken apart again.
- `Report.readSatellite_satellite`: the line of a satellite is read as that satellite.
- `Report.satellites_faithful`: what a block consists of, and that it tells the satellites.
-/

namespace Positioning

/-! ## Lines -/

namespace Text

theorem pieces_of_not_mem {c : Char} {cs : List Char} (h : c ∉ cs) : pieces c cs = [cs] := by
  induction cs with
  | nil => rfl
  | cons d cs ih =>
    obtain ⟨hd, hcs⟩ := not_or.mp (mt List.mem_cons.mpr h)
    rw [pieces, if_neg (Ne.symm hd), ih hcs]

theorem pieces_append_cons {c : Char} {cs : List Char} (h : c ∉ cs) (rest : List Char) :
    pieces c (cs ++ c :: rest) = cs :: pieces c rest := by
  induction cs with
  | nil => simp [pieces]
  | cons d cs ih =>
    obtain ⟨hd, hcs⟩ := not_or.mp (mt List.mem_cons.mpr h)
    rw [List.cons_append, pieces, if_neg (Ne.symm hd), ih hcs]

/-- The lines of a text. -/
def lines (text : String) : List String :=
  (pieces '\n' text.toList).map String.ofList

/-- Lines that are joined are taken apart again, as long as none of them holds a line end. -/
theorem lines_intercalate {ls : List String} (hne : ls ≠ [])
    (h : ∀ l ∈ ls, '\n' ∉ l.toList) : lines ("\n".intercalate ls) = ls := by
  induction ls with
  | nil => exact absurd rfl hne
  | cons l ls ih =>
    have hl : '\n' ∉ l.toList := h l (List.mem_cons_self ..)
    cases ls with
    | nil => simp [lines, pieces_of_not_mem hl]
    | cons l' ls =>
      have hrest := ih (List.cons_ne_nil _ _) fun x hx => h x (List.mem_cons_of_mem _ hx)
      have hsplit : ("\n".intercalate (l :: l' :: ls)).toList =
          l.toList ++ '\n' :: ("\n".intercalate (l' :: ls)).toList := by
        rw [String.intercalate_cons_cons, String.append_assoc, String.toList_append,
          String.toList_append]
        rfl
      rw [lines, hsplit, pieces_append_cons hl, List.map_cons, String.ofList_toList]
      exact congrArg (l :: ·) hrest

/-- Joined lines end as the last of them does, and so with no line end unless that one is empty. -/
theorem getLast?_intercalate_ne {ls : List String} (h : ∀ l ∈ ls, l ≠ "" ∧ '\n' ∉ l.toList) :
    ("\n".intercalate ls).toList.getLast? ≠ some '\n' := by
  rcases List.eq_nil_or_concat ls with rfl | ⟨front, l, rfl⟩
  · simp
  · obtain ⟨hl, hline⟩ := h l (by simp)
    have hne : l.toList ≠ [] := by simpa using hl
    have hlast : ("\n".intercalate (front.concat l)).toList.getLast? = l.toList.getLast? := by
      rw [List.concat_eq_append]
      cases front with
      | nil => simp
      | cons first front =>
        rw [String.intercalate_append_of_ne_nil (List.cons_ne_nil _ _) (List.cons_ne_nil _ _),
          String.intercalate_singleton, String.toList_append, List.getLast?_append_of_ne_nil _ hne]
    rw [hlast]
    exact fun hend => hline (List.mem_of_getLast? hend)

end Text

namespace Report

open Decimal

/-! ## Satellites -/

/-- The mark behind the numbers of a satellite that is in use. -/
def inUseMark : String :=
  " (in use)"

/-- A line ends with the mark. -/
def IsMarked (line : String) : Prop :=
  inUseMark.toList <:+ line.toList

instance : DecidablePred IsMarked := fun line =>
  inferInstanceAs (Decidable (inUseMark.toList <:+ line.toList))

def satelliteForm (inUse : Bool) : Form :=
  ⟨"  PRN ", [(':', " elevation "), (',', " azimuth "), (',', " SNR ")],
    if inUse then inUseMark else "", by decide⟩

/-- The slots of the line of a satellite. -/
def satelliteSlots (s : Satellite) : List String :=
  [ofNat s.id.toNat, ofNat s.elevation.toNat, ofNat s.azimuth.toNat, ofNat s.snr.toNat]

theorem satellite_eq (s : Satellite) :
    satellite s = (satelliteForm s.inUse).fill (satelliteSlots s) := by
  rw [← String.toList_inj]
  cases hs : s.inUse <;>
    simp [satellite, satelliteForm, satelliteSlots, Form.fill, Form.joined, inUseMark, hs]

theorem isSlot_ofNat (n : ℕ) : IsSlot (ofNat n) := fun c hc =>
  .inl (isDigit_ofNat n c hc)

theorem fits_satellite (s : Satellite) : (satelliteForm s.inUse).Fits (satelliteSlots s) :=
  ⟨rfl, by simp [satelliteSlots, isSlot_ofNat]⟩

/-- Only the lines of satellites in use end with the mark: those of the others end with a digit. -/
theorem isMarked_satellite_iff (s : Satellite) : IsMarked (satellite s) ↔ s.inUse = true := by
  have hline : (satellite s).toList = ("  PRN " ++ ofNat s.id.toNat ++ ": elevation " ++
      ofNat s.elevation.toNat ++ ", azimuth " ++ ofNat s.azimuth.toNat ++ ", SNR ").toList ++
      ((ofNat s.snr.toNat).toList ++ if s.inUse then inUseMark.toList else []) := by
    cases hs : s.inUse <;> simp [satellite, inUseMark, hs]
  cases hs : s.inUse with
  | true =>
    rw [hs, if_pos rfl, ← List.append_assoc] at hline
    exact iff_of_true ⟨_, hline.symm⟩ rfl
  | false =>
    refine iff_of_false (fun hmark => ?_) Bool.false_ne_true
    rw [hs, if_neg Bool.false_ne_true, List.append_nil] at hline
    have hne : (ofNat s.snr.toNat).toList ≠ [] := by
      rw [ofNat, String.toList_ofList]
      exact digits_ne_nil _
    have hlast : (ofNat s.snr.toNat).toList.getLast? = some ')' := by
      rw [← List.getLast?_append_of_ne_nil _ hne, ← hline]
      obtain ⟨front, hfront⟩ := hmark
      rw [← hfront, List.getLast?_append_of_ne_nil _ (by decide)]
      rfl
    exact absurd (isDigit_ofNat _ _ (List.mem_of_getLast? hlast)) (by decide)

/-- The satellite that a line shows. -/
def readSatellite (line : String) : Option Satellite :=
  match ((satelliteForm (IsMarked line)).read line).map fun slot =>
    UInt32.ofNat (value slot.toList) with
  | [id, elevation, azimuth, snr] => some ⟨id, IsMarked line, elevation, azimuth, snr⟩
  | _ => none

theorem ofNat_value_ofNat (n : UInt32) : UInt32.ofNat (value (ofNat n.toNat).toList) = n := by
  rw [ofNat, String.toList_ofList, value_digits, UInt32.ofNat_toNat]

/-- The line of a satellite is read as that satellite. -/
theorem readSatellite_satellite (s : Satellite) : readSatellite (satellite s) = some s := by
  have hmark : decide (IsMarked (satellite s)) = s.inUse := by
    simp [isMarked_satellite_iff]
  rw [readSatellite, hmark, satellite_eq, Form.read_fill (fits_satellite s)]
  simp [satelliteSlots, ofNat_value_ofNat]

/-! ## Blocks -/

/-- The summary of a block with a number of lines, of which a number are marked. -/
def summary (rows marked : ℕ) : String :=
  ofNat rows ++ " satellites, " ++ ofNat marked ++ " in use"

/-- The satellites that a block shows, one in each line behind the first. -/
def readSatellites (block : String) : Option (List Satellite) :=
  (Text.lines block).tail.mapM readSatellite

theorem newline_not_mem_ofNat (n : ℕ) : '\n' ∉ (ofNat n).toList := fun h =>
  absurd (isDigit_ofNat n _ h) (by decide)

theorem newline_not_mem_summary (rows marked : ℕ) : '\n' ∉ (summary rows marked).toList := by
  simp [summary, newline_not_mem_ofNat]

theorem newline_not_mem_satellite (s : Satellite) : '\n' ∉ (satellite s).toList := by
  cases hs : s.inUse <;> simp [satellite, newline_not_mem_ofNat, hs]

/-- A block is its summary, with the lines of the satellites behind it. -/
theorem satellites_eq (view : List Satellite) : satellites view =
    "\n".intercalate (summary view.length (view.countP Satellite.inUse) :: view.map satellite) := by
  rw [List.countP_eq_length_filter]
  rfl

theorem line_of_mem_block {view : List Satellite} {rows marked : ℕ} {line : String}
    (h : line ∈ summary rows marked :: view.map satellite) : line ≠ "" ∧ '\n' ∉ line.toList := by
  rcases List.mem_cons.mp h with rfl | hrow
  · exact ⟨by simp [summary], newline_not_mem_summary rows marked⟩
  · obtain ⟨s, -, rfl⟩ := List.mem_map.mp hrow
    exact ⟨by simp [satellite], newline_not_mem_satellite s⟩

theorem lines_satellites (view : List Satellite) : Text.lines (satellites view) =
    summary view.length (view.countP Satellite.inUse) :: view.map satellite := by
  rw [satellites_eq]
  exact Text.lines_intercalate (List.cons_ne_nil _ _) fun _ hl => (line_of_mem_block hl).2

theorem countP_isMarked (view : List Satellite) :
    (view.map satellite).countP (IsMarked ·) = view.countP Satellite.inUse := by
  rw [List.countP_map]
  exact List.countP_congr fun s _ => by simp [isMarked_satellite_iff]

theorem mapM_readSatellite (view : List Satellite) :
    (view.map satellite).mapM readSatellite = some view := by
  induction view with
  | nil => rfl
  | cons s view ih => simp [List.mapM_cons, readSatellite_satellite, ih]

theorem readSatellites_satellites (view : List Satellite) :
    readSatellites (satellites view) = some view := by
  rw [readSatellites, lines_satellites, List.tail_cons, mapM_readSatellite]

/-- **Satellite blocks are faithful.** A block is one summary line with the line of each satellite
behind it, in the order of the satellites. The two numbers of the summary count the lines behind it
and those of them that are marked as in use, no line end comes last, and each line shows its
satellite. So the satellites are read back from the block, and different satellites give different
blocks. -/
theorem satellites_faithful :
    (∀ view : List Satellite, ∃ rows : List String,
      Text.lines (satellites view) =
        (ofNat rows.length ++ " satellites, " ++ ofNat (rows.countP (IsMarked ·)) ++ " in use") ::
          rows ∧
      rows.length = view.length ∧
      (∀ (i : ℕ) (s : Satellite), view[i]? = some s →
        rows[i]? = some ((satelliteForm s.inUse).fill (satelliteSlots s)) ∧
        readSatellite ((satelliteForm s.inUse).fill (satelliteSlots s)) = some s) ∧
      (satellites view).toList.getLast? ≠ some '\n' ∧
      readSatellites (satellites view) = some view) ∧
    Function.Injective satellites := by
  refine ⟨fun view => ⟨view.map satellite, ?_, List.length_map .., ?_, ?_, ?_⟩, ?_⟩
  · rw [lines_satellites, List.length_map, countP_isMarked]
    rfl
  · intro i s hs
    rw [← satellite_eq]
    exact ⟨by rw [List.getElem?_map, hs]; rfl, readSatellite_satellite s⟩
  · rw [satellites_eq]
    exact Text.getLast?_intercalate_ne fun _ => line_of_mem_block
  · exact readSatellites_satellites view
  · intro view view' heq
    have hread := readSatellites_satellites view
    rw [heq, readSatellites_satellites] at hread
    exact (Option.some.inj hread).symm

end Report

end Positioning
