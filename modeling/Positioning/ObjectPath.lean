import Positioning.Wire.Carried

/-!
# Object paths

An object on the bus is addressed by a path: `/` alone, or non-empty elements of ASCII letters,
digits and underscores, each after a slash. `ObjectPath` holds texts of which the wire carries a
valid path; `carried` is that path.

`ofDevice` gives the path of the object that the daemon makes for a device: the base name of the
device below the control path, with one underscore for every character that no path may hold.
-/

namespace Positioning

/-- The characters of a path element. -/
def isElementChar (c : Char) : Bool :=
  c.isAlphanum || c = '_'

/-- What may follow a slash. The flag tells whether the element at hand has started: only then may
the path end, or another slash come. -/
def isPathRest : Bool → List Char → Bool
  | started, [] => started
  | started, c :: rest =>
    if c = '/' then started && isPathRest false rest
    else isElementChar c && isPathRest true rest

/-- The texts that are object paths. -/
def isPath : List Char → Bool
  | ['/'] => true
  | '/' :: rest => isPathRest false rest
  | _ => false

/-- A text that arrives as a valid object path. -/
structure ObjectPath where
  text : String
  valid : isPath (Wire.carriedChars text.toList) = true
deriving DecidableEq

/-- A device whose name holds nothing but slashes has no object path. -/
structure NoDeviceName where
  device : String

namespace NoDeviceName

/-- The device is named as it was given. -/
def message (e : NoDeviceName) : String :=
  "no device name in \"" ++ e.device ++ "\""

end NoDeviceName

/-- A slash ends what comes before it. -/
theorem isPathRest_append_slash (started : Bool) (front rest : List Char) :
    isPathRest started (front ++ '/' :: rest) =
      (isPathRest started front && isPathRest false rest) := by
  induction front generalizing started with
  | nil => simp [isPathRest]
  | cons c front ih =>
    simp only [List.cons_append, isPathRest]
    split <;> simp [ih, Bool.and_assoc]

/-- A started element may be continued by element characters up to the end. -/
theorem isPathRest_element {element : List Char} (h : ∀ c ∈ element, isElementChar c = true)
    (hslash : ∀ c ∈ element, c ≠ '/') (started : Bool) :
    isPathRest started element = (started || !element.isEmpty) := by
  induction element generalizing started with
  | nil => simp [isPathRest]
  | cons c rest ih =>
    have hc := hslash c (List.mem_cons_self ..)
    rw [isPathRest, if_neg hc, h c (List.mem_cons_self ..),
      ih (fun x hx => h x (List.mem_cons_of_mem _ hx))
        (fun x hx => hslash x (List.mem_cons_of_mem _ hx))]
    simp

/-- What may follow a slash holds no NUL. -/
theorem ne_nul_of_isPathRest {cs : List Char} (started : Bool) (h : isPathRest started cs = true) :
    ∀ c ∈ cs, c ≠ '\x00' := by
  induction cs generalizing started with
  | nil => simp
  | cons c rest ih =>
    rw [isPathRest] at h
    intro x hx
    by_cases hslash : c = '/'
    · rw [if_pos hslash, Bool.and_eq_true] at h
      rcases List.mem_cons.mp hx with rfl | hmem
      · rw [hslash]
        decide
      · exact ih false h.2 x hmem
    · rw [if_neg hslash, Bool.and_eq_true] at h
      rcases List.mem_cons.mp hx with rfl | hmem
      · rintro rfl
        exact absurd h.1 (by decide)
      · exact ih true h.2 x hmem

/-- A path arrives as it is. -/
theorem carriedChars_of_isPath {cs : List Char} (h : isPath cs = true) :
    Wire.carriedChars cs = cs := by
  apply Wire.carriedChars_of_forall
  unfold isPath at h
  split at h
  · intro c hc
    rw [List.mem_singleton.mp hc]
    decide
  · intro c hc
    rcases List.mem_cons.mp hc with rfl | hmem
    · decide
    · exact ne_nul_of_isPathRest false h c hmem
  · exact absurd h (by decide)

namespace ObjectPath

/-- The path that a text spells, if it spells one. -/
def ofText? (text : String) : Option ObjectPath :=
  if h : isPath (Wire.carriedChars text.toList) = true then some ⟨text, h⟩ else none

/-- A path as it arrives. -/
def carried (p : ObjectPath) : ObjectPath :=
  ⟨Wire.carried p.text, by simpa [Wire.carried] using p.valid⟩

/-- A text that is a path by itself arrives as it is. -/
theorem carried_of_isPath {p : ObjectPath} (h : isPath p.text.toList = true) : p.carried = p := by
  cases p
  simp [carried, Wire.carried, carriedChars_of_isPath h]

/-- The root of the object tree. -/
def root : ObjectPath :=
  ⟨"/", by decide⟩

/-- The daemon's control object, which makes and removes clients. -/
def control : ObjectPath :=
  ⟨"/org/freedesktop/Gypsy", by decide⟩

/-- The daemon's discovery object, which lists devices. -/
def discovery : ObjectPath :=
  ⟨"/org/freedesktop/Gypsy/Discovery", by decide⟩

/-- A character as it stands in a path element. -/
def elementChar (c : Char) : Char :=
  if c.isAlphanum then c else '_'

/-- The characters of a list after its last slash. -/
def afterLastSlash : List Char → List Char
  | [] => []
  | c :: rest => if '/' ∈ rest then afterLastSlash rest else if c = '/' then rest else c :: rest

/-- The last component of a device name, trailing slashes left out. -/
def baseName (device : List Char) : List Char :=
  afterLastSlash (device.reverse.dropWhile (· = '/')).reverse

/-- An element character is a letter, a digit or an underscore. -/
theorem isElementChar_elementChar (c : Char) : isElementChar (elementChar c) = true := by
  by_cases h : c.isAlphanum = true
  · simp [elementChar, isElementChar, h]
  · simp [elementChar, isElementChar, h]

/-- An element character is no slash. -/
theorem elementChar_ne_slash (c : Char) : elementChar c ≠ '/' := by
  intro h
  have hc := isElementChar_elementChar c
  rw [h] at hc
  exact absurd hc (by decide)

/-- A non-empty element below the control path makes a valid path. -/
theorem isPath_control_append {name : List Char} (h : name ≠ []) :
    isPath (control.text.toList ++ '/' :: name.map elementChar) = true := by
  have helement : isPathRest false (name.map elementChar) = true := by
    rw [isPathRest_element (by simp [isElementChar_elementChar]) (by simp [elementChar_ne_slash])]
    simpa using h
  have hcontrol : control.text.toList = '/' :: "org/freedesktop/Gypsy".toList := by decide
  have hrest : isPathRest false "org/freedesktop/Gypsy".toList = true := by decide
  have hsplit := isPathRest_append_slash false "org/freedesktop/Gypsy".toList
    (name.map elementChar)
  rw [hrest, helement, Bool.and_self] at hsplit
  rw [hcontrol]
  have hne : "org/freedesktop/Gypsy".toList ++ '/' :: name.map elementChar ≠ [] := by simp
  simpa [isPath, hne] using hsplit

/-- The path of a child of the control object. -/
def child (name : List Char) (h : name ≠ []) : ObjectPath :=
  ⟨String.ofList (control.text.toList ++ '/' :: name.map elementChar), by
    rw [String.toList_ofList, carriedChars_of_isPath (isPath_control_append h)]
    exact isPath_control_append h⟩

/-- The object path of a device, an error where the device has no base name. -/
def ofDevice (device : String) : Except NoDeviceName ObjectPath :=
  if h : baseName device.toList = [] then .error ⟨device⟩
  else .ok (child (baseName device.toList) h)

end ObjectPath

end Positioning
