import Positioning.Proofs.CommandLine.Reading
import Positioning.Tool.Run

/-!
# The grammar of command lines

A command line is a sequence of items: options with their values, which have five spellings, and
devices. Behind the first double hyphen every word is a device. A tool goes on with what it was
given exactly if there is one option at most and as many devices as it takes; on every other command
line it prints a notice and ends.

Reading goes on along the grammar, because each item that is taken off a command line is one more in
the state that reading goes on from.

## Main definitions

- `CommandLine.Spells` lists the spellings of an option, and `CommandLine.Items` is the grammar.
- `CommandLine.IsGiven` says what a command line gives a tool.

## Main statements

- `CommandLine.items_cons_iff`: the first word of a command line decides what it starts with.
- `CommandLine.readAll_eq_ok_iff`: reading goes on from a state exactly along the grammar.
- `CommandLine.parse_grammar`: what is accepted, with which result, and what is printed otherwise.
-/

namespace Positioning.CommandLine

/-! ## Items -/

/-- The spellings of the configuration option with a value, as words of a command line. -/
inductive Spells (value : String) : List String → Prop where
  | short (h : IsPlain value) : Spells value ["-c", value]
  | long (h : IsPlain value) : Spells value ["--config", value]
  | attached (hne : value ≠ "") (heq : value.toList.head? ≠ some '=') : Spells value ["-c" ++ value]
  | shortEquals : Spells value ["-c=" ++ value]
  | longEquals : Spells value ["--config=" ++ value]

/-- The items of a command line: the values of its options, and its devices. -/
inductive Items : List String → List String → List String → Prop where
  | done : Items [] [] []
  | optionsEnd (devices : List String) : Items ("--" :: devices) [] devices
  | option {value : String} {spelling words values devices : List String}
      (h : Spells value spelling) (rest : Items words values devices) :
      Items (spelling ++ words) (value :: values) devices
  | device {device : String} {words values devices : List String} (h : IsPlain device)
      (rest : Items words values devices) : Items (device :: words) values (device :: devices)

/-- What a command line gives a tool that takes a configuration file. -/
def IsGiven (takesDevice : Bool) (words : List String) (given : Arguments) : Prop :=
  ∃ values devices, Items words values devices ∧ Fits takesDevice values devices given

/-! ## Taking the first item off -/

theorem spells_iff {value : String} {spelling : List String} :
    Spells value spelling ↔
      (∃ word, spelling = [word] ∧ configOption? word = some (some value)) ∨
        ∃ word, spelling = [word, value] ∧ configOption? word = some none ∧ IsPlain value := by
  simp only [configOption?_eq_awaiting_iff, configOption?_eq_attached_iff]
  constructor
  · rintro (h | h | ⟨hne, heq⟩ | _ | _)
    · exact .inr ⟨_, rfl, .inl rfl, h⟩
    · exact .inr ⟨_, rfl, .inr rfl, h⟩
    · exact .inl ⟨_, rfl, .inl ⟨rfl, hne, heq⟩⟩
    · exact .inl ⟨_, rfl, .inr (.inl rfl)⟩
    · exact .inl ⟨_, rfl, .inr (.inr rfl)⟩
  · rintro (⟨word, rfl, ⟨rfl, hne, heq⟩ | rfl | rfl⟩ | ⟨word, rfl, rfl | rfl, h⟩)
    · exact .attached hne heq
    · exact .shortEquals
    · exact .longEquals
    · exact .short h
    · exact .long h

/-- The first word of a command line ends the options, or it is a device, or it holds an option with
its value, or the word behind it is the value of its option. -/
theorem items_cons_iff {word : String} {words values devices : List String} :
    Items (word :: words) values devices ↔
      (word = "--" ∧ values = [] ∧ devices = words) ∨
      (IsPlain word ∧ ∃ others, devices = word :: others ∧ Items words values others) ∨
      (∃ value others, configOption? word = some (some value) ∧ values = value :: others ∧
        Items words others devices) ∨
      (configOption? word = some none ∧ ∃ value behind others, words = value :: behind ∧
        IsPlain value ∧ values = value :: others ∧ Items behind others devices) := by
  constructor
  · intro h
    generalize hline : word :: words = line at h
    cases h with
    | done => cases hline
    | optionsEnd devices =>
      obtain ⟨rfl, rfl⟩ := List.cons.inj hline
      exact .inl ⟨rfl, rfl, rfl⟩
    | option hspells rest =>
      rcases spells_iff.mp hspells with ⟨_, rfl, hword⟩ | ⟨_, rfl, hword, hplain⟩
      · obtain ⟨rfl, rfl⟩ := List.cons.inj hline
        exact .inr (.inr (.inl ⟨_, _, hword, rfl, rest⟩))
      · obtain ⟨rfl, rfl⟩ := List.cons.inj hline
        exact .inr (.inr (.inr ⟨hword, _, _, _, rfl, hplain, rfl, rest⟩))
    | device hplain rest =>
      obtain ⟨rfl, rfl⟩ := List.cons.inj hline
      exact .inr (.inl ⟨hplain, _, rfl, rest⟩)
  · rintro (⟨rfl, rfl, rfl⟩ | ⟨hplain, others, rfl, rest⟩ | ⟨value, others, hword, rfl, rest⟩ |
      ⟨hword, value, behind, others, rfl, hplain, rfl, rest⟩)
    · exact .optionsEnd _
    · exact .device hplain rest
    · exact .option (spells_iff.mpr (.inl ⟨word, rfl, hword⟩)) rest
    · exact .option (spells_iff.mpr (.inr ⟨word, rfl, hword, hplain⟩)) rest

theorem items_nil_iff {values devices : List String} :
    Items [] values devices ↔ values = [] ∧ devices = [] := by
  constructor
  · intro h
    generalize hline : [] = line at h
    cases h with
    | done => exact ⟨rfl, rfl⟩
    | optionsEnd => cases hline
    | option hspells rest =>
      rcases spells_iff.mp hspells with ⟨_, rfl, -⟩ | ⟨_, rfl, -⟩ <;> cases hline
    | device => cases hline
  · rintro ⟨rfl, rfl⟩
    exact .done

/-! ## Reading along the grammar -/

/-- The items of what is left of a command line fit behind those that have been given. -/
def FitsBehind (form : Form) (p : Progress) (words : List String) (given : Arguments) : Prop :=
  ∃ values devices, Items words values devices ∧
    Fits form.takesDevice (p.values ++ values) (p.devices ++ devices) given

variable {form : Form} {p : Progress} {given : Arguments} {word value device : String}
  {words : List String}

theorem fitsBehind_nil_iff :
    FitsBehind form p [] given ↔ Fits form.takesDevice p.values p.devices given := by
  simp [FitsBehind, items_nil_iff]

theorem fitsBehind_optionsEnd_iff : FitsBehind form p ("--" :: words) given ↔
    Fits form.takesDevice p.values (p.devices ++ words) given := by
  simp [FitsBehind, items_cons_iff, not_isPlain_optionsEnd, configOption?_optionsEnd]

theorem fitsBehind_device_iff (h : p.IsOpen form) (hend : word ≠ "--") (hplain : IsPlain word) :
    FitsBehind form p (word :: words) given ↔
      ∃ q, p.acceptDevice form word = .ok q ∧ FitsBehind form q words given := by
  have hconfig := configOption?_of_isPlain hplain
  constructor
  · rintro ⟨values, devices, hitems, hfits⟩
    obtain ⟨others, rfl, hothers⟩ : ∃ others, devices = word :: others ∧
        Items words values others := by
      simpa [items_cons_iff, hend, hplain, hconfig] using hitems
    obtain ⟨q, hq, hmore⟩ := (acceptDevice_fits_iff h).mpr hfits
    exact ⟨q, hq, values, others, hothers, hmore⟩
  · rintro ⟨q, hq, values, others, hothers, hmore⟩
    exact ⟨values, word :: others, .device hplain hothers,
      (acceptDevice_fits_iff h).mp ⟨q, hq, hmore⟩⟩

theorem fitsBehind_attached_iff (h : p.IsOpen form)
    (hconfig : configOption? word = some (some value)) :
    FitsBehind form p (word :: words) given ↔
      ∃ q, p.acceptOption (some value) = .ok q ∧ FitsBehind form q words given := by
  have hend : word ≠ "--" := fun hword => by simp [hword, configOption?_optionsEnd] at hconfig
  have hplain : ¬ IsPlain word := not_isPlain_of_configOption? hconfig
  constructor
  · rintro ⟨values, devices, hitems, hfits⟩
    obtain ⟨others, rfl, hothers⟩ : ∃ others, values = value :: others ∧
        Items words others devices := by
      simpa [items_cons_iff, hend, hplain, hconfig] using hitems
    obtain ⟨q, hq, hmore⟩ := (acceptAttached_fits_iff h).mpr hfits
    exact ⟨q, hq, others, devices, hothers, hmore⟩
  · rintro ⟨q, hq, others, devices, hothers, hmore⟩
    exact ⟨value :: others, devices, .option (spells_iff.mpr (.inl ⟨word, rfl, hconfig⟩)) hothers,
      (acceptAttached_fits_iff h).mp ⟨q, hq, hmore⟩⟩

theorem fitsBehind_awaiting_iff (h : p.IsOpen form) (hconfig : configOption? word = some none) :
    FitsBehind form p (word :: words) given ↔
      ∃ q, p.acceptOption none = .ok q ∧ ∃ value behind, words = value :: behind ∧ IsPlain value ∧
        FitsBehind form (q.giving value) behind given := by
  have hend : word ≠ "--" := fun hword => by simp [hword, configOption?_optionsEnd] at hconfig
  have hplain : ¬ IsPlain word := not_isPlain_of_configOption? hconfig
  constructor
  · rintro ⟨values, devices, hitems, hfits⟩
    obtain ⟨value, behind, rfl, hvalue, others, rfl, hothers⟩ : ∃ value behind,
        words = value :: behind ∧ IsPlain value ∧ ∃ others, values = value :: others ∧
          Items behind others devices := by
      simpa [items_cons_iff, hend, hplain, hconfig] using hitems
    obtain ⟨q, hq, hmore⟩ := (acceptAwaiting_fits_iff h).mpr hfits
    exact ⟨q, hq, value, behind, rfl, hvalue, others, devices, hothers, hmore⟩
  · rintro ⟨q, hq, value, behind, rfl, hvalue, others, devices, hothers, hmore⟩
    exact ⟨value :: others, devices,
      .option (spells_iff.mpr (.inr ⟨word, rfl, hconfig, hvalue⟩)) hothers,
      (acceptAwaiting_fits_iff h).mp ⟨q, hq, hmore⟩⟩

theorem not_fitsBehind (hend : word ≠ "--") (hplain : ¬ IsPlain word)
    (hconfig : configOption? word = none) : ¬ FitsBehind form p (word :: words) given := by
  rintro ⟨values, devices, hitems, -⟩
  simp [items_cons_iff, hend, hplain, hconfig] at hitems

/-- Reading goes on exactly along the grammar: each item is one more in the state that is left. -/
theorem readAll_eq_ok_iff (hform : form.takesConfig = true) (h : p.IsOpen form)
    (words : List String) : readAll form p words = .ok given ↔ FitsBehind form p words given := by
  -- Two words may be taken off at once, so that the induction is on their number.
  induction hsize : words.length using Nat.strongRecOn generalizing p words with
  | ind n ih => ?_
  subst hsize
  cases words with
  | nil => rw [readAll, Progress.finish_eq_ok_iff h, fitsBehind_nil_iff]
  | cons word words =>
    by_cases hend : word = "--"
    · subst hend
      rw [readAll, if_pos (by rfl), readDevices_eq_ok_iff h, fitsBehind_optionsEnd_iff]
    · rw [readAll_cons_eq_ok_iff hend]
      by_cases hplain : IsPlain word
      · rw [accept_of_isPlain hplain, acceptPlain_of_isOpen h, fitsBehind_device_iff h hend hplain]
        exact exists_congr fun q => and_congr_right fun hq =>
          ih _ (by simp) (isOpen_of_acceptDevice h hq) words rfl
      · cases hconfig : configOption? word with
        | none =>
          refine iff_of_false ?_ (not_fitsBehind hend hplain hconfig)
          rintro ⟨q, hq, -⟩
          exact accept_ne_ok hplain hconfig hq
        | some value? =>
          rw [accept_of_configOption? hform hconfig]
          cases value? with
          | some value =>
            rw [fitsBehind_attached_iff h hconfig]
            exact exists_congr fun q => and_congr_right fun hq =>
              ih _ (by simp) (isOpen_of_acceptAttached h hq) words rfl
          | none =>
            rw [fitsBehind_awaiting_iff h hconfig]
            refine exists_congr fun q => and_congr_right fun hq => ?_
            obtain ⟨hawaiting, hopen⟩ := isOpen_of_acceptAwaiting h hq
            rw [readAll_awaiting_eq_ok_iff hform hawaiting]
            refine exists_congr fun value => exists_congr fun behind => and_congr_right ?_
            rintro rfl
            exact and_congr_right fun _ =>
              ih _ (Nat.lt_succ_of_lt (Nat.lt_succ_self _)) (hopen value) behind rfl

theorem parse_eq_ok_iff (hform : form.takesConfig = true) (words : List String) :
    parse form words = .ok given ↔ IsGiven form.takesDevice words given := by
  have hopen : Progress.initial.IsOpen form := ⟨Pending.noConfusion, Nat.zero_le _⟩
  exact readAll_eq_ok_iff hform hopen words

theorem parseOrNotice_eq_ok_iff (hform : form.takesConfig = true) (usage : String)
    (words : List String) :
    parseOrNotice form usage words = .ok given ↔ IsGiven form.takesDevice words given := by
  rw [← parse_eq_ok_iff hform, parseOrNotice]
  cases parse form words <;> simp

/-- A tool that does not go on prints what it was asked for, or how it is called. -/
theorem parseOrNotice_cases (form : Form) (usage : String) (words : List String) :
    (∃ given, parseOrNotice form usage words = .ok given) ∨
      parseOrNotice form usage words = .error ⟨true, helpText form⟩ ∨
      parseOrNotice form usage words = .error ⟨true, versionText form⟩ ∨
      parseOrNotice form usage words = .error ⟨false, usage ++ "\n"⟩ := by
  rw [parseOrNotice]
  cases parse form words with
  | ok given => exact .inl ⟨given, rfl⟩
  | error stop => cases stop <;> simp [Stop.notice]

/-! ## Ending at the command line -/

/-- A run that shows what was asked for and succeeds, or that tells how the tool is called and
fails. -/
def IsEnding (form : Form) (usage : String) (run : Tool.Run) : Prop :=
  (run.exit.status? = some 0 ∧ (run.output = helpText form ∨ run.output = versionText form)) ∨
    (run.exit.status? = some 1 ∧ run.output = usage ++ "\n")

theorem exists_notice (form : Form) (usage : String)
    (h : ∀ given, parseOrNotice form usage words ≠ .ok given) :
    ∃ notice, parseOrNotice form usage words = .error notice ∧
      IsEnding form usage (.ofNotice notice) := by
  rcases parseOrNotice_cases form usage words with ⟨given, hgiven⟩ | hhelp | hversion | husage
  · exact absurd hgiven (h given)
  · exact ⟨_, hhelp, .inl ⟨rfl, .inl rfl⟩⟩
  · exact ⟨_, hversion, .inl ⟨rfl, .inr rfl⟩⟩
  · exact ⟨_, husage, .inr ⟨rfl, rfl⟩⟩

theorem run_of_notice {tool : Tool} {notice : Notice} (files : FileReader) (host? : Option Host)
    (signals : List Message) (h : parseOrNotice tool.form tool.usage words = .error notice) :
    tool.run words files host? signals = .ofNotice notice := by
  rw [Tool.run, h]

theorem isGiven_spelling {spelling : List String} (h : Spells value spelling)
    (hitems : Items words [] [device]) :
    IsGiven true (spelling ++ words) ⟨some value, some device⟩ :=
  ⟨[value], [device], .option h hitems, Nat.le_refl _, rfl, rfl⟩

/-- **The grammar of command lines.** A tool that takes a configuration file goes on exactly if its
command line is a sequence of items with one option at most and with as many devices as it takes,
and then it goes on with the value of that option and with that device; so it does not matter how
the option is spelled or whether it stands before the device. On every other command line it does
not go on: it shows help or its version and succeeds, or it prints how it is called and fails. -/
theorem parse_grammar (name : String) (about? : Option String) (takesDevice : Bool)
    (usage : String) (words : List String) :
    (∀ given, parseOrNotice ⟨name, about?, true, takesDevice⟩ usage words = .ok given ↔
      IsGiven takesDevice words given) ∧
    ((¬ ∃ given, IsGiven takesDevice words given) →
      ∃ notice, parseOrNotice ⟨name, about?, true, takesDevice⟩ usage words = .error notice ∧
        IsEnding ⟨name, about?, true, takesDevice⟩ usage (.ofNotice notice)) ∧
    (∀ value spelling device, Spells value spelling →
      (IsPlain device →
        parseOrNotice ⟨name, about?, true, true⟩ usage (spelling ++ [device]) =
          .ok ⟨some value, some device⟩ ∧
        parseOrNotice ⟨name, about?, true, true⟩ usage (device :: spelling) =
          .ok ⟨some value, some device⟩) ∧
      parseOrNotice ⟨name, about?, true, true⟩ usage (spelling ++ ["--", device]) =
        .ok ⟨some value, some device⟩) ∧
    ∀ (tool : Tool) (files : FileReader) (host? : Option Host) (signals : List Message),
      (¬ ∃ given, IsGiven tool.takesDevice words given) →
        IsEnding tool.form tool.usage (tool.run words files host? signals) := by
  have hgiven (takesDevice : Bool) (words : List String) (given : Arguments) :
      parseOrNotice ⟨name, about?, true, takesDevice⟩ usage words = .ok given ↔
        IsGiven takesDevice words given := parseOrNotice_eq_ok_iff rfl usage words
  refine ⟨hgiven takesDevice words, fun hnone => ?_, fun value spelling device hspells => ?_,
    fun tool files host? signals hnone => ?_⟩
  · refine exists_notice _ usage fun given hok => hnone ⟨given, ?_⟩
    exact (hgiven takesDevice words given).mp hok
  · simp only [hgiven]
    refine ⟨fun hplain => ⟨isGiven_spelling hspells (.device hplain .done), ?_⟩,
      isGiven_spelling hspells (.optionsEnd [device])⟩
    have hitems : Items (spelling ++ []) [value] [] := .option hspells .done
    rw [List.append_nil] at hitems
    exact ⟨[value], [device], .device hplain hitems, Nat.le_refl _, rfl, rfl⟩
  · obtain ⟨notice, hnotice, hending⟩ := exists_notice tool.form tool.usage fun given hok =>
      hnone ⟨given, (parseOrNotice_eq_ok_iff rfl tool.usage words).mp hok⟩
    rw [run_of_notice files host? signals hnotice]
    exact hending

/-- An option whose value is missing is refused although a device follows, and an empty value is
taken with a hyphen alone as the device. -/
theorem parse_grammar_missingValue :
    (¬ ∃ given, IsGiven true ["-c", "--", "x"] given) ∧
    (∃ notice, parseOrNotice ⟨"gypsy-test", none, true, true⟩ "gypsy-test <device>"
        ["-c", "--", "x"] = .error notice ∧
      IsEnding ⟨"gypsy-test", none, true, true⟩ "gypsy-test <device>" (.ofNotice notice)) ∧
    IsEnding (Tool.form .watch) (Tool.usage .watch)
      (Tool.watch.run ["-c", "--", "x"] (fun _ => .error .notFound) none []) ∧
    Spells "" ["-c="] ∧ IsPlain "-" ∧
    parseOrNotice ⟨"gypsy-test", none, true, true⟩ "gypsy-test <device>" (["-c="] ++ ["-"]) =
      .ok ⟨some "", some "-"⟩ := by
  have hgrammar := parse_grammar "gypsy-test" none true "gypsy-test <device>" ["-c", "--", "x"]
  have hrefused : parse ⟨"gypsy-test", none, true, true⟩ ["-c", "--", "x"] =
      .error .missingValue := by decide
  have hnone : ¬ ∃ given, IsGiven true ["-c", "--", "x"] given := by
    rintro ⟨given, hgiven⟩
    have hok := (hgrammar.1 given).mpr hgiven
    rw [parseOrNotice, hrefused] at hok
    cases hok
  exact ⟨hnone, hgrammar.2.1 hnone, hgrammar.2.2.2 .watch _ none [] hnone, .shortEquals, by decide,
    ((hgrammar.2.2.1 "" ["-c="] "-" .shortEquals).1 (by decide)).1⟩

end Positioning.CommandLine
