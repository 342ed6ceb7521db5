import Positioning.Proofs.Bus.Clients
import Positioning.Settings.File

/-!
# Loading the settings

What a file gives depends on nothing but that file: the settings that its text makes, or the cause
for which it has no text or its text makes none. The default settings come from no file. They stand
in for the default file where that is not there, and for nothing else.

## Main definitions

- `Settings.Loads` says what comes of a file.

## Main statements

- `Settings.result_loadFrom_iff`: loading from a file ends as the file says.
- `Settings.result_loadDefault_of_ne` and `Settings.result_loadDefault_of_notFound`: the default
  file is loaded as any other, unless it is not there.
- `Settings.default_only_for_absent_file`: all of it, and what it means for a working directory.
-/

namespace Positioning

/-- The bytes of a text are read as that text, and other bytes as none. -/
theorem fromUTF8?_eq_some_iff {content : ByteArray} {text : String} :
    String.fromUTF8? content = some text ↔ content = text.toUTF8 := by
  constructor
  · intro h
    rw [String.fromUTF8?] at h
    split at h
    · rw [← Option.some.inj h]
      rfl
    · cases h
  · rintro rfl
    rw [String.fromUTF8?, String.toUTF8_eq_toByteArray, dif_pos text.isValidUTF8]
    rfl

theorem fromUTF8?_eq_none_iff {content : ByteArray} :
    String.fromUTF8? content = none ↔ ∀ text : String, content ≠ text.toUTF8 := by
  simp only [ne_eq, ← fromUTF8?_eq_some_iff, Option.eq_none_iff_forall_ne_some]

namespace Settings

variable {β ω : Type} {files : FileReader} {path : String}

/-- What comes of loading the settings from a file. -/
inductive Loads (files : FileReader) (path : String) : Except LoadFault Settings → Prop where
  | text {text : String} (h : files path = .ok text.toUTF8) : Loads files path (parse text)
  | notText {content : ByteArray} (h : files path = .ok content)
      (hbytes : ∀ text : String, content ≠ text.toUTF8) : Loads files path (.error .notText)
  | unreadable {f : ReadFault} (h : files path = .error f) :
      Loads files path (.error (.unreadable f))

/-- Something comes of each file. -/
theorem exists_loads (files : FileReader) (path : String) : ∃ r, Loads files path r := by
  cases hfile : files path with
  | error f => exact ⟨_, .unreadable hfile⟩
  | ok content =>
    cases htext : String.fromUTF8? content with
    | none => exact ⟨_, .notText hfile (fromUTF8?_eq_none_iff.mp htext)⟩
    | some text => exact ⟨_, .text (hfile.trans (congrArg _ (fromUTF8?_eq_some_iff.mp htext)))⟩

theorem result_readText (b : β) :
    ((readText files path : Action β LoadFault ω String).run b).result =
      .ofExcept (match files path with
        | .error f => .error (.unreadable f)
        | .ok content =>
          match String.fromUTF8? content with
          | some text => .ok text
          | none => .error .notText) :=
  rfl

/-- A file has a text, or it has a cause for which it has none. -/
theorem Loads.readText {r : Except LoadFault Settings} (h : Loads files path r) (b : β) :
    (∃ text : String, files path = .ok text.toUTF8 ∧ r = parse text ∧
      ((readText files path : Action β LoadFault ω String).run b).result = .ok text) ∨
    ∃ e, r = .error e ∧ (e = .unreadable .notFound ↔ files path = .error .notFound) ∧
      ((readText files path : Action β LoadFault ω String).run b).result = .error e := by
  rw [result_readText]
  cases h with
  | @text text hfile =>
    have htext : String.fromUTF8? text.toUTF8 = some text := fromUTF8?_eq_some_iff.mpr rfl
    exact .inl ⟨text, hfile, rfl, by simp only [hfile, htext, Ending.ofExcept]⟩
  | notText hfile hbytes =>
    have hnone := fromUTF8?_eq_none_iff.mpr hbytes
    refine .inr ⟨_, rfl, by simp [hfile], ?_⟩
    simp only [hfile, hnone, Ending.ofExcept]
  | @unreadable f hfile =>
    refine .inr ⟨_, rfl, by simp [hfile], ?_⟩
    simp only [hfile, Ending.ofExcept]

/-- Loading from a file ends as the file says. -/
theorem result_loadFrom {r : Except LoadFault Settings} (h : Loads files path r) (b : β) :
    ((loadFrom files path : Action β LoadFault ω Settings).run b).result = .ofExcept r := by
  rcases h.readText (ω := ω) b with ⟨text, -, rfl, hread⟩ | ⟨e, rfl, -, hread⟩
  · rw [loadFrom, Action.run_bind_of_ok _ hread]
    rfl
  · rw [loadFrom, Action.run_bind_of_error _ hread]
    rfl

/-- What is attempted gives how it ends. -/
theorem result_attempt {ε ε' α : Type} {x : Action β ε ω α} {b : β} (r : Except ε α)
    (h : (x.run b).result = .ofExcept r) :
    ((Action.attempt x : Action β ε' ω (Except ε α)).run b).result = .ok r := by
  cases r <;> simp [Action.attempt, h, Ending.ofExcept]

/-- The default file is loaded as any other, unless it is not there. -/
theorem result_loadDefault_of_ne {r : Except LoadFault Settings} (h : Loads files defaultPath r)
    (hne : files defaultPath ≠ .error .notFound) (b : β) :
    ((loadDefault files : Action β LoadFault ω Settings).run b).result = .ofExcept r := by
  rcases h.readText (ω := ω) b with ⟨text, -, rfl, hread⟩ | ⟨e, rfl, habsent, hread⟩
  · rw [loadDefault, Action.run_bind_of_ok _ (result_attempt (.ok text) hread)]
    rfl
  · -- One cause is caught, and it is another one than that of this file.
    have hcause : e ≠ .unreadable .notFound := fun he => hne (habsent.mp he)
    rw [loadDefault, Action.run_bind_of_ok _ (result_attempt (.error e) hread)]
    cases e with
    | unreadable f =>
      cases f with
      | notFound => exact absurd rfl hcause
      | _ => rfl
    | _ => rfl

/-- The default settings stand in for the default file where that is not there. -/
theorem result_loadDefault_of_notFound (h : files defaultPath = .error .notFound) (b : β) :
    ((loadDefault files : Action β LoadFault ω Settings).run b).result = .ok default := by
  have hread : ((readText files defaultPath : Action β LoadFault ω String).run b).result =
      .error (.unreadable .notFound) := by simp only [result_readText, h, Ending.ofExcept]
  rw [loadDefault, Action.run_bind_of_ok _ (result_attempt (.error _) hread)]
  rfl

/-- Settings come of a file whose text makes them, and of no other. -/
theorem loads_ok_iff {s : Settings} :
    Loads files path (.ok s) ↔
      ∃ text : String, files path = .ok text.toUTF8 ∧ parse text = .ok s := by
  constructor
  · intro h
    rcases h.readText (ω := Unit) () with ⟨text, hfile, hparse, -⟩ | ⟨e, he, -⟩
    · exact ⟨text, hfile, hparse.symm⟩
    · cases he
  · rintro ⟨text, hfile, hparse⟩
    exact hparse ▸ .text hfile

theorem ofExcept_injective {ε α : Type} {r r' : Except ε α}
    (h : Ending.ofExcept r = Ending.ofExcept r') : r = r' := by
  cases r <;> cases r' <;> simp_all [Ending.ofExcept]

theorem result_loadFrom_iff {r : Except LoadFault Settings} (b : β) :
    ((loadFrom files path : Action β LoadFault ω Settings).run b).result = .ofExcept r ↔
      Loads files path r := by
  constructor
  · intro hresult
    obtain ⟨r', h⟩ := exists_loads files path
    rw [result_loadFrom h] at hresult
    exact ofExcept_injective hresult ▸ h
  · exact fun h => result_loadFrom h b

/-- What comes of an explicit path depends on the file with that path only. -/
theorem loadFrom_congr {files' : FileReader} (h : files' path = files path) :
    (loadFrom files' path : Action β LoadFault ω Settings) = loadFrom files path := by
  have hread : (readText files' path : Action β LoadFault ω String) = readText files path := by
    rw [readText, readText, h]
  rw [loadFrom, loadFrom, hread]

end Settings

/-! ## The default file of a working directory -/

theorem FileTree.read_defaultPath (t : FileTree) : t.read Settings.defaultPath =
    match t.entries.lookup Settings.defaultPath with
    | none => .error .notFound
    | some .directory => .error .isADirectory
    | some (.file content) => .ok content := by
  have hcomponents : components Settings.defaultPath = [Settings.defaultPath] := by decide
  have hstep : t.step .working Settings.defaultPath = t.lookup .working Settings.defaultPath := by
    rw [step, if_neg (by decide), if_neg (by decide), if_neg (by decide)]
    exact fun content h => Place.noConfusion h
  rw [read, if_neg (by decide), if_neg (by decide), if_neg (by decide), if_neg (by decide),
    hcomponents]
  simp only [walk, hstep, lookup]
  rcases t.entries.lookup Settings.defaultPath with _ | ⟨content⟩ | _ <;> rfl

namespace Settings

variable {β ω : Type}

/-- **Defaults only for an absent file.** Loading from an explicit path gives settings exactly if
the file has a text in UTF-8 that makes them; it ends as that file says, and depends on no other.
Loading without a path ends as loading from the default file does, whatever comes of that, unless
that file is not there: then and only then it gives the default settings without having read any. So
in a working directory only the name that is missing gives the default settings, while a directory,
bytes that are no text and a text that is no configuration are errors. -/
theorem default_only_for_absent_file (files : FileReader) (b : β) :
    (∀ (path : String) (r : Except LoadFault Settings),
      ((load files (some path) : Action β LoadFault ω Settings).run b).result = .ofExcept r ↔
        Loads files path r) ∧
    (∀ (path : String) (s : Settings),
      ((load files (some path) : Action β LoadFault ω Settings).run b).result = .ok s ↔
        ∃ text : String, files path = .ok text.toUTF8 ∧ parse text = .ok s) ∧
    (∀ (path : String) (files' : FileReader), files' path = files path →
      (load files' (some path) : Action β LoadFault ω Settings) = load files (some path)) ∧
    (files defaultPath ≠ .error .notFound →
      ((load files none : Action β LoadFault ω Settings).run b).result =
        ((load files (some defaultPath) : Action β LoadFault ω Settings).run b).result) ∧
    (files defaultPath = .error .notFound →
      ((load files none : Action β LoadFault ω Settings).run b).result = .ok default) ∧
    (∀ s : Settings, ((load files none : Action β LoadFault ω Settings).run b).result = .ok s →
      (files defaultPath = .error .notFound ∧ s = default) ∨
        ∃ text : String, files defaultPath = .ok text.toUTF8 ∧ parse text = .ok s) ∧
    ∀ t : FileTree,
      let result := ((load t.read none : Action β LoadFault ω Settings).run b).result
      match t.entries.lookup defaultPath with
      | none => result = .ok default
      | some .directory => result = .error (.unreadable .isADirectory)
      | some (.file content) =>
        (∀ text : String, content = text.toUTF8 → result = .ofExcept (parse text)) ∧
        ((∀ text : String, content ≠ text.toUTF8) → result = .error .notText) := by
  refine ⟨fun path r => result_loadFrom_iff b, fun path s => ?_,
    fun path files' h => loadFrom_congr h,
    fun hne => ?_, fun h => result_loadDefault_of_notFound h b, fun s hs => ?_, fun t => ?_⟩
  · exact (result_loadFrom_iff (r := .ok s) b).trans loads_ok_iff
  · obtain ⟨r, h⟩ := exists_loads files defaultPath
    exact (result_loadDefault_of_ne h hne b).trans (result_loadFrom h b).symm
  · by_cases habsent : files defaultPath = .error .notFound
    · have hdefault := hs.symm.trans (result_loadDefault_of_notFound habsent b)
      exact .inl ⟨habsent, Ending.ok.inj hdefault⟩
    · obtain ⟨r, h⟩ := exists_loads files defaultPath
      have hr : Except.ok s = r :=
        ofExcept_injective (hs.symm.trans (result_loadDefault_of_ne h habsent b))
      exact .inr (loads_ok_iff.mp (hr ▸ h))
  · have hread := t.read_defaultPath
    cases hentry : t.entries.lookup defaultPath with
    | none =>
      rw [hentry] at hread
      exact result_loadDefault_of_notFound hread b
    | some node =>
      rw [hentry] at hread
      cases node with
      | directory =>
        exact result_loadDefault_of_ne (.unreadable hread) (by simp [hread]) b
      | file content =>
        refine ⟨fun text htext => ?_, fun hbytes => ?_⟩
        · subst htext
          exact result_loadDefault_of_ne (.text hread) (by simp [hread]) b
        · exact result_loadDefault_of_ne (.notText hread hbytes) (by simp [hread]) b

/-- A default file whose bytes are no text is an error, and so is one that may not be read, while an
empty working directory gives the default settings. -/
theorem default_only_for_absent_file_notText :
    let broken : FileTree := ⟨[("client.toml", .file ⟨#[0xff]⟩)]⟩
    let empty : FileTree := ⟨[]⟩
    let denied : ReadFault := .other "PermissionDenied" (by decide)
    broken.read defaultPath ≠ .error .notFound ∧
    ((load broken.read none : Action Unit LoadFault String Settings).run ()).result =
      ((load broken.read (some defaultPath) :
        Action Unit LoadFault String Settings).run ()).result ∧
    (∀ text : String, (⟨#[0xff]⟩ : ByteArray) ≠ text.toUTF8) ∧
    ((load broken.read none : Action Unit LoadFault String Settings).run ()).result =
      .error .notText ∧
    empty.read defaultPath = .error .notFound ∧
    ((load empty.read none : Action Unit LoadFault String Settings).run ()).result = .ok default ∧
    empty.read "other.toml" = broken.read "other.toml" ∧
    (load empty.read (some "other.toml") : Action Unit LoadFault String Settings) =
      load broken.read (some "other.toml") ∧
    ((load (fun _ => .error denied) none : Action Unit LoadFault String Settings).run ()).result =
      .error (.unreadable denied) := by
  intro broken empty denied
  obtain ⟨_, _, hother, hbroken, _, _, htree⟩ :=
    default_only_for_absent_file (ω := String) broken.read ()
  obtain ⟨_, _, _, _, hempty, _⟩ := default_only_for_absent_file (ω := String) empty.read ()
  obtain ⟨hloads, _, _, hdenied, _⟩ :=
    default_only_for_absent_file (ω := String) (fun _ => .error denied) ()
  have hbytes : ∀ text : String, (⟨#[0xff]⟩ : ByteArray) ≠ text.toUTF8 :=
    fromUTF8?_eq_none_iff.mp (by decide)
  have hfile : broken.read defaultPath = .ok ⟨#[0xff]⟩ := broken.read_defaultPath
  have hread : broken.read defaultPath ≠ .error .notFound := by simp [hfile]
  have hnone : empty.read defaultPath = .error .notFound := empty.read_defaultPath
  have hsame : empty.read "other.toml" = broken.read "other.toml" := by rfl
  refine ⟨hread, hbroken hread, hbytes, And.right (htree broken) hbytes, hnone, hempty hnone, hsame,
    hother _ _ hsame, ?_⟩
  -- Without a path the error is the one that the file gives where it is named.
  have hnamed := (hloads defaultPath (.error (.unreadable denied))).mpr (.unreadable rfl)
  exact (hdenied (by simp [denied])).trans hnamed

end Settings

end Positioning
