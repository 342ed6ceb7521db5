/-!
# Texts on the wire

A text ends on the wire where its first NUL is. What is behind that does not arrive.
-/

namespace Positioning.Wire

/-- The characters that the wire carries. -/
def carriedChars (cs : List Char) : List Char :=
  cs.takeWhile (· ≠ '\x00')

/-- The part of a text that the wire carries. -/
def carried (s : String) : String :=
  String.ofList (carriedChars s.toList)

/-- A text without a NUL arrives as it is. -/
theorem carriedChars_of_forall {cs : List Char} (h : ∀ c ∈ cs, c ≠ '\x00') :
    carriedChars cs = cs := by
  induction cs with
  | nil => rfl
  | cons c rest ih =>
    have hc := h c (List.mem_cons_self ..)
    have hrest := ih fun x hx => h x (List.mem_cons_of_mem _ hx)
    rw [carriedChars, List.takeWhile_cons, if_pos (decide_eq_true hc)]
    exact congrArg (c :: ·) hrest

/-- What the wire carries holds no NUL. -/
theorem ne_nul_of_mem_carriedChars {cs : List Char} {c : Char} (h : c ∈ carriedChars cs) :
    c ≠ '\x00' := by
  induction cs with
  | nil => simp [carriedChars] at h
  | cons d rest ih =>
    rw [carriedChars, List.takeWhile_cons] at h
    split at h
    · rename_i hd
      rcases List.mem_cons.mp h with rfl | hmem
      · simpa using hd
      · exact ih hmem
    · simp at h

/-- Of what the wire carries nothing is lost another time. -/
@[simp] theorem carriedChars_carriedChars (cs : List Char) :
    carriedChars (carriedChars cs) = carriedChars cs :=
  carriedChars_of_forall fun _ h => ne_nul_of_mem_carriedChars h

/-- Of what the wire carries nothing is lost another time. -/
@[simp] theorem carried_carried (s : String) : carried (carried s) = carried s := by
  simp [carried]

end Positioning.Wire
