import Mathlib.Data.List.Forall2
import Positioning.Proofs.Daemon.Objects

/-!
# Paths of devices

A device has an object path exactly if its name holds something other than slashes. The path is the
base name of the device below the control path, and depends on nothing else: what stands before the
base name and the slashes behind it do not matter. A path is a device name too, that of itself. Two
devices share a path if their base names differ in nothing but characters that no path may hold.

## Main definitions

- `ObjectPath.HasBaseName` says what the base name of a device is, without taking it apart.

## Main statements

- `ObjectPath.ofDevice_eq_error_iff` and `ObjectPath.ofDevice_eq_ok_iff`: which devices have no
  path, and which path the others have.
- `ObjectPath.device_path`: all of it.
-/

namespace Positioning.ObjectPath

/-! ## Base names -/

/-- The last component of a device that is not empty: behind it there is nothing but slashes, and it
stands at the start or behind a slash. -/
structure HasBaseName (device base : List Char) : Prop where
  ne_nil : base ≠ []
  no_slash : '/' ∉ base
  split : ∃ front slashes, device = front ++ base ++ slashes ∧
    (front = [] ∨ ∃ parents, front = parents ++ ['/']) ∧ ∀ c ∈ slashes, c = '/'

/-- A device that is more than slashes has a base name. -/
theorem exists_hasBaseName {device : List Char} (h : ∃ c ∈ device, c ≠ '/') :
    ∃ base, HasBaseName device base := by
  induction device with
  | nil => simp at h
  | cons c rest ih =>
    -- The base name lies behind this character, starts with it, or is nothing but it.
    by_cases hrest : ∃ d ∈ rest, d ≠ '/'
    · obtain ⟨base, hne, hslash, front, slashes, rfl, hfront, hslashes⟩ := ih hrest
      rcases hfront with rfl | ⟨parents, rfl⟩
      · by_cases hc : c = '/'
        · exact ⟨base, hne, hslash, ['/'], slashes, by simp [hc], .inr ⟨[], rfl⟩, hslashes⟩
        · exact ⟨c :: base, List.cons_ne_nil _ _, by simp [Ne.symm hc, hslash], [], slashes, rfl,
            .inl rfl, hslashes⟩
      · exact ⟨base, hne, hslash, c :: parents ++ ['/'], slashes, rfl, .inr ⟨c :: parents, rfl⟩,
          hslashes⟩
    · have hslashes : ∀ d ∈ rest, d = '/' := by simpa using hrest
      obtain ⟨d, hd, hne⟩ := h
      have hc : c ≠ '/' := by
        rcases List.mem_cons.mp hd with rfl | hmem
        · exact hne
        · exact absurd (hslashes d hmem) hne
      exact ⟨[c], List.cons_ne_nil _ _, by simpa using Ne.symm hc, [], rest, rfl, .inl rfl,
        hslashes⟩

theorem afterLastSlash_of_not_mem {cs : List Char} (h : '/' ∉ cs) : afterLastSlash cs = cs := by
  cases cs with
  | nil => rfl
  | cons c rest =>
    obtain ⟨hc, hrest⟩ := not_or.mp (mt List.mem_cons.mpr h)
    rw [afterLastSlash, if_neg hrest, if_neg (Ne.symm hc)]

theorem afterLastSlash_append {parents base : List Char} (h : '/' ∉ base) :
    afterLastSlash (parents ++ '/' :: base) = base := by
  induction parents with
  | nil => simp [afterLastSlash, h]
  | cons c parents ih => simpa [afterLastSlash] using ih

theorem dropSlashes_append (name : List Char) {slashes : List Char}
    (hslashes : ∀ c ∈ slashes, c = '/') :
    ((name ++ slashes).reverse.dropWhile (· = '/')).reverse =
      (name.reverse.dropWhile (· = '/')).reverse := by
  rw [List.reverse_append, List.dropWhile_append_of_pos (by simpa using hslashes)]

theorem dropSlashes_of_last {front base : List Char} (hne : base ≠ []) (hslash : '/' ∉ base) :
    ((front ++ base).reverse.dropWhile (· = '/')).reverse = front ++ base := by
  obtain ⟨init, last, rfl⟩ : ∃ init last, base = init ++ [last] :=
    ⟨_, _, (List.dropLast_append_getLast hne).symm⟩
  have hlast : last ≠ '/' := by
    rintro rfl
    exact hslash (by simp)
  simp [List.dropWhile_cons_of_neg, hlast]

/-- The base name is what is left of a device when it is taken apart. -/
theorem HasBaseName.baseName_eq {device base : List Char} (h : HasBaseName device base) :
    baseName device = base := by
  obtain ⟨hne, hslash, front, slashes, rfl, hfront, hslashes⟩ := h
  rw [baseName, dropSlashes_append _ hslashes, dropSlashes_of_last hne hslash]
  rcases hfront with rfl | ⟨parents, rfl⟩
  · exact afterLastSlash_of_not_mem hslash
  · simpa using afterLastSlash_append hslash

theorem HasBaseName.unique {device base base' : List Char} (h : HasBaseName device base)
    (h' : HasBaseName device base') : base = base' :=
  h.baseName_eq.symm.trans h'.baseName_eq

theorem baseName_of_slashes {device : List Char} (h : ∀ c ∈ device, c = '/') :
    baseName device = [] := by
  have hnone := dropSlashes_append [] h
  rw [List.nil_append] at hnone
  rw [baseName, hnone]
  rfl

/-- More slashes at the end do not matter. -/
theorem HasBaseName.append_slashes {device base : List Char} (h : HasBaseName device base)
    (n : Nat) : HasBaseName (device ++ List.replicate n '/') base := by
  obtain ⟨hne, hslash, front, slashes, rfl, hfront, hslashes⟩ := h
  refine ⟨hne, hslash, front, slashes ++ List.replicate n '/', by simp, hfront, ?_⟩
  intro c hc
  rcases List.mem_append.mp hc with hold | hnew
  · exact hslashes c hold
  · exact List.eq_of_mem_replicate hnew

/-- What stands before a slash before a device does not matter. -/
theorem HasBaseName.below {device base : List Char} (h : HasBaseName device base)
    (parents : List Char) : HasBaseName (parents ++ '/' :: device) base := by
  obtain ⟨hne, hslash, front, slashes, rfl, hfront, hslashes⟩ := h
  refine ⟨hne, hslash, parents ++ '/' :: front, slashes, by simp, .inr ?_, hslashes⟩
  rcases hfront with rfl | ⟨parents', rfl⟩
  · exact ⟨parents, rfl⟩
  · exact ⟨parents ++ '/' :: parents', by simp⟩

theorem HasBaseName.of_no_slash {name : List Char} (hne : name ≠ []) (hslash : '/' ∉ name) :
    HasBaseName name name :=
  ⟨hne, hslash, [], [], by simp, .inl rfl, by simp⟩

/-! ## Elements -/

/-- The element that stands for a base name. -/
def element (base : List Char) : List Char :=
  base.map elementChar

theorem element_element (base : List Char) : element (element base) = element base := by
  have hchar : ∀ c, elementChar (elementChar c) = elementChar c := by
    intro c
    by_cases h : c.isAlphanum = true
    · simp [elementChar, h]
    · simp [elementChar, h]
  rw [element, element, List.map_map]
  exact List.map_congr_left fun c _ => hchar c

theorem no_slash_element (base : List Char) : '/' ∉ element base := by
  intro h
  obtain ⟨c, _, hc⟩ := List.mem_map.mp h
  exact elementChar_ne_slash c hc

/-- Two characters stand for the same if they are the same, or if no path may hold either. -/
def SharesElement (c d : Char) : Prop :=
  c = d ∨ (c.isAlphanum = false ∧ d.isAlphanum = false)

instance : DecidableRel SharesElement := fun c d =>
  inferInstanceAs (Decidable (c = d ∨ (c.isAlphanum = false ∧ d.isAlphanum = false)))

theorem elementChar_eq_iff (c d : Char) : elementChar c = elementChar d ↔ SharesElement c d := by
  have hline : ∀ {x : Char}, x.isAlphanum = true → x ≠ '_' := by
    rintro x hx rfl
    exact absurd hx (by decide)
  unfold elementChar SharesElement
  cases hc : c.isAlphanum <;> cases hd : d.isAlphanum
  · simp
  · have hne : c ≠ d := by
      rintro rfl
      simp [hc] at hd
    simp [hne, Ne.symm (hline hd)]
  · have hne : c ≠ d := by
      rintro rfl
      simp [hc] at hd
    simp [hne, hline hc]
  · simp

theorem element_eq_iff {base base' : List Char} :
    element base = element base' ↔ List.Forall₂ SharesElement base base' := by
  rw [element, element, ← List.forall₂_eq_eq_eq, List.forall₂_map_left_iff,
    List.forall₂_map_right_iff]
  simp only [elementChar_eq_iff]

/-! ## Devices -/

/-- A device has no path if it is nothing but slashes. -/
theorem ofDevice_eq_error_iff {device : String} {e : NoDeviceName} :
    ofDevice device = .error e ↔ (∀ c ∈ device.toList, c = '/') ∧ e = ⟨device⟩ := by
  unfold ofDevice
  constructor
  · intro h
    split at h
    · next hnone =>
      refine ⟨?_, (Except.error.inj h).symm⟩
      by_contra hother
      obtain ⟨base, hbase⟩ := exists_hasBaseName (by simpa using hother)
      exact hbase.ne_nil (hbase.baseName_eq.symm.trans hnone)
    · cases h
  · rintro ⟨hslashes, rfl⟩
    rw [dif_pos (baseName_of_slashes hslashes)]

/-- The path of a device is the element for its base name, below the control path. -/
theorem ofDevice_eq_ok_iff {device : String} {base : List Char} {p : ObjectPath}
    (hbase : HasBaseName device.toList base) :
    ofDevice device = .ok p ↔ p.text.toList = control.text.toList ++ '/' :: element base := by
  have hname := hbase.baseName_eq
  subst hname
  rw [ofDevice, dif_neg hbase.ne_nil, Except.ok.injEq]
  constructor
  · rintro rfl
    exact String.toList_ofList
  · intro htext
    obtain ⟨text, valid⟩ := p
    simp only [child, ObjectPath.mk.injEq]
    rw [← String.toList_inj, String.toList_ofList]
    exact htext.symm

/-- A path, taken as the name of a device, has its element for a base name. -/
theorem hasBaseName_element {base : List Char} (hne : base ≠ []) :
    HasBaseName (control.text.toList ++ '/' :: element base) (element base) :=
  (HasBaseName.of_no_slash (by simpa [element] using hne) (no_slash_element base)).below _

/-- **Paths of devices.** A device whose name is nothing but slashes has no path, and the error
names it as it was given. Any other has a path: below the control path one element of letters,
digits and underscores, which is not empty and as long as the base name. The text is a valid path by
itself, and not the control path. Slashes behind the device and whatever ends in a slash before it
do not change the path, and the path of the path is itself. Another device has the same path exactly
if the two base names are equally long and agree at every place, except for characters that no path
may hold. -/
theorem device_path (device : String) :
    ((∀ c ∈ device.toList, c = '/') ∧ ofDevice device = .error ⟨device⟩) ∨
    ((∃ c ∈ device.toList, c ≠ '/') ∧ ∃ p base name, ofDevice device = .ok p ∧
      (∀ base', HasBaseName device.toList base' ↔ base' = base) ∧
      p.text = "/org/freedesktop/Gypsy/" ++ name ∧
      name ≠ "" ∧ (∀ c ∈ name.toList, c.isAlphanum = true ∨ c = '_') ∧
      name.length = base.length ∧
      isPath p.text.toList = true ∧ ofText? p.text = some p ∧ p ≠ control ∧
      (∀ n, ofDevice (device ++ String.ofList (List.replicate n '/')) = .ok p) ∧
      (∀ parents, ofDevice (parents ++ "/" ++ device) = .ok p) ∧
      ofDevice p.text = .ok p ∧
      ∀ other base' q, HasBaseName other.toList base' → ofDevice other = .ok q →
        (p = q ↔ List.Forall₂ SharesElement base base')) := by
  by_cases hslashes : ∀ c ∈ device.toList, c = '/'
  · exact .inl ⟨hslashes, ofDevice_eq_error_iff.mpr ⟨hslashes, rfl⟩⟩
  have hother : ∃ c ∈ device.toList, c ≠ '/' := by simpa using hslashes
  obtain ⟨base, hbase⟩ := exists_hasBaseName hother
  have hpath := isPath_control_append hbase.ne_nil
  have hok : ofDevice device = .ok (child base hbase.ne_nil) :=
    (ofDevice_eq_ok_iff hbase).mpr String.toList_ofList
  have htext : (child base hbase.ne_nil).text.toList = control.text.toList ++ '/' :: element base :=
    String.toList_ofList
  refine .inr ⟨hother, child base hbase.ne_nil, base, String.ofList (element base), hok,
    fun _ => ⟨fun h => h.unique hbase, fun h => h ▸ hbase⟩, ?_, ?_, ?_, ?_, ?_, ?_,
    ofDevice_ne_control hok, fun n => ?_, fun parents => ?_, ?_, ?_⟩
  · rw [← String.toList_inj, htext]
    simp [control]
  · simpa [element] using hbase.ne_nil
  · intro c hc
    rw [String.toList_ofList] at hc
    obtain ⟨d, _, rfl⟩ := List.mem_map.mp hc
    simpa [isElementChar] using isElementChar_elementChar d
  · simp [element]
  · rw [htext]
    exact hpath
  · rw [ofText?, dif_pos]
  · refine (ofDevice_eq_ok_iff ?_).mpr htext
    simpa using hbase.append_slashes n
  · refine (ofDevice_eq_ok_iff ?_).mpr htext
    simpa using hbase.below parents.toList
  · -- The path ends in its own element, and the element stands for itself.
    have hown := hasBaseName_element hbase.ne_nil
    rw [← htext] at hown
    rw [ofDevice_eq_ok_iff hown, element_element, htext]
  · intro other base' q hbase' hq
    rw [← element_eq_iff]
    constructor
    · rintro rfl
      have htext' := (ofDevice_eq_ok_iff hbase').mp hq
      rw [htext] at htext'
      simpa using htext'
    · intro heq
      rw [ofDevice_eq_ok_iff hbase', ← heq, ← ofDevice_eq_ok_iff hbase] at hq
      exact Except.ok.inj (hok.symm.trans hq)

/-- A full stop and a hyphen become the same; directories and slashes at the end do not matter. -/
theorem device_path_shared :
    HasBaseName "by-id/tty-USB0".toList "tty-USB0".toList ∧
      ∃ p, ofDevice "/dev/tty.USB0//" = .ok p ∧ ofDevice "by-id/tty-USB0" = .ok p := by
  have hother : HasBaseName "by-id/tty-USB0".toList "tty-USB0".toList :=
    ⟨by decide, by decide, "by-id/".toList, [], by decide, .inr ⟨"by-id".toList, by decide⟩,
      by simp⟩
  refine ⟨hother, ?_⟩
  obtain ⟨hslashes, _⟩ | ⟨_, p, base, name, hp, hbase, _, _, _, _, _, _, _, _, _, _, hshared⟩ :=
    device_path "/dev/tty.USB0//"
  · exact absurd (hslashes 'd' (by decide)) (by decide)
  have hname : base = "tty.USB0".toList :=
    ((hbase base).mpr rfl).baseName_eq.symm.trans (by decide)
  have hq : ofDevice "by-id/tty-USB0" = .ok (child "tty-USB0".toList (by decide)) :=
    (ofDevice_eq_ok_iff hother).mpr String.toList_ofList
  have heq : p = child "tty-USB0".toList (by decide) := by
    refine (hshared "by-id/tty-USB0" _ _ hother hq).mpr ?_
    rw [hname]
    decide
  exact ⟨p, hp, heq ▸ hq⟩

end Positioning.ObjectPath
