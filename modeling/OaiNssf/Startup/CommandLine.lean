import OaiNssf.Model.Main

/-!
# What the command line decides

`parseInputOptions` is a loop over what `getopt_long` returns. Its result depends on which
options are among that, and the file on the last `-c` of them.

* `parseLoop_cons`: what one call of `getopt_long` does.
* `Accepted`, `namedFile`: which command lines are accepted, and the file they name.
* `command_line_decides`: the result of a parse, the members of `Options`, and how it exits.
-/

namespace OaiNssf.Options

open GetOpt

/-! ## The loop -/

/-- A call that the loop accepts and goes on. -/
def Takes (event : Event) : Prop :=
  event.val = some 'c' ∨ event.val = some 'o' ∨ event.val = some 'r'

instance (event : Event) : Decidable (Takes event) := by
  unfold Takes
  infer_instance

/-- The file that a call names. -/
def configFile : Event → Option String
  | .option val optarg => if val = 'c' then some (optarg.getD "") else none
  | .unknown _ => none

/-- The members after one call. -/
def take (o : Options) (event : Event) : Options :=
  match configFile event with
  | some file =>
    { o with libconfigcfg := file, options := o.options ||| OptionsSelected.libconfigcfg }
  | none =>
    if event.val = some 'o' then
      { o with logStdout := true, options := o.options ||| OptionsSelected.logStdout }
    else if event.val = some 'r' then
      { o with logRotFileLog := true, options := o.options ||| OptionsSelected.logRotFileLog }
    else o

theorem isSome_configFile_iff (event : Event) :
    (configFile event).isSome = true ↔ event.val = some 'c' := by
  cases event with
  | option val optarg =>
    by_cases hc : val = 'c'
    · simp [configFile, Event.val, hc]
    · simp [configFile, Event.val, hc]
  | unknown optopt => simp [configFile, Event.val]

/-- One round of the loop. -/
theorem parseLoop_cons (o : Options) (result : Bool) (stdout : List String) {event : Event}
    (hhelp : event.val ≠ some 'h') (events : List Event) :
    ∃ stdout', parseLoop o result stdout (event :: events) =
      parseLoop (o.take event) (result && decide (Takes event)) stdout' events := by
  cases event with
  | unknown optopt =>
    refine ⟨stdout ++ [unknownMessage optopt], ?_⟩
    simp [parseLoop, take, configFile, Event.val, Takes]
  | option val optarg =>
    have hh : val ≠ 'h' := fun h => hhelp (congrArg some h)
    by_cases hc : val = 'c'
    · subst hc
      exact ⟨stdout, by simp [parseLoop, take, configFile, Event.val, Takes]⟩
    by_cases ho : val = 'o'
    · subst ho
      exact ⟨stdout, by simp [parseLoop, take, configFile, Event.val, Takes]⟩
    by_cases hr : val = 'r'
    · subst hr
      exact ⟨stdout, by simp [parseLoop, take, configFile, Event.val, Takes]⟩
    · refine ⟨stdout ++ [unrecognized val], ?_⟩
      simp [parseLoop, take, configFile, Event.val, Takes, hh, hc, ho, hr]

/-- Without `-h` the loop runs to its end, and fails if a call is not taken. -/
theorem parseLoop_eq_returned (o : Options) (result : Bool) (stdout : List String)
    {events : List Event} (hhelp : ∀ event ∈ events, event.val ≠ some 'h') :
    ∃ stdout', parseLoop o result stdout events =
      .returned (result && decide (∀ event ∈ events, Takes event)) (events.foldl take o)
        stdout' := by
  induction events generalizing o result stdout with
  | nil => exact ⟨stdout, by simp [parseLoop]⟩
  | cons event events ih =>
    obtain ⟨stdout', hround⟩ :=
      parseLoop_cons o result stdout (hhelp event List.mem_cons_self) events
    obtain ⟨stdout'', hrest⟩ := ih (o.take event) (result && decide (Takes event)) stdout'
      fun e he => hhelp e (List.mem_cons_of_mem _ he)
    refine ⟨stdout'', ?_⟩
    rw [hround, hrest, Bool.and_assoc]
    simp

/-- With `-h` the process exits, whatever stands before it, and the last lines it prints are
    those of `help`. -/
theorem parseLoop_eq_exited (o : Options) (result : Bool) (stdout : List String)
    {events : List Event} (hhelp : ∃ event ∈ events, event.val = some 'h') :
    ∃ before, parseLoop o result stdout events = .exited (before ++ help) := by
  induction events generalizing o result stdout with
  | nil => simp at hhelp
  | cons event events ih =>
    by_cases hh : event.val = some 'h'
    · cases event with
      | unknown optopt => cases hh
      | option val optarg =>
        have hval : val = 'h' := Option.some.inj hh
        exact ⟨stdout, by rw [parseLoop, if_pos hval]⟩
    · obtain ⟨stdout', hround⟩ := parseLoop_cons o result stdout hh events
      have hrest : ∃ event ∈ events, event.val = some 'h' := by simpa [hh] using hhelp
      rw [hround]
      exact ih (o.take event) _ stdout' hrest

/-! ## The members -/

theorem validateOptions_or_one (n : ℕ) :
    (n ||| OptionsSelected.libconfigcfg) &&& OptionsSelected.libconfigcfg ≠ 0 := by
  rw [OptionsSelected.libconfigcfg, Nat.and_one_is_mod]
  have hodd : (n ||| 1) % 2 = 1 := Nat.or_mod_two_eq_one.mpr (Or.inr rfl)
  omega

theorem validateOptions_or_even (n : ℕ) {m : ℕ} (hm : m % 2 = 0) :
    (n ||| m) &&& OptionsSelected.libconfigcfg ≠ 0 ↔
      n &&& OptionsSelected.libconfigcfg ≠ 0 := by
  rw [OptionsSelected.libconfigcfg, Nat.and_one_is_mod, Nat.and_one_is_mod]
  have hodd : (n ||| m) % 2 = 1 ↔ n % 2 = 1 ∨ m % 2 = 1 := Nat.or_mod_two_eq_one
  omega

/-- A file is recorded when one is named. -/
theorem validateOptions_take (o : Options) (event : Event) :
    (o.take event).validateOptions = true ↔
      event.val = some 'c' ∨ o.validateOptions = true := by
  rw [← isSome_configFile_iff]
  unfold take
  cases hfile : configFile event with
  | some file =>
    refine iff_of_true ?_ (Or.inl rfl)
    exact decide_eq_true (validateOptions_or_one o.options)
  | none =>
    simp only [Option.isSome_none, Bool.false_eq_true, false_or]
    unfold validateOptions
    split_ifs
    · have heven : OptionsSelected.logStdout % 2 = 0 := rfl
      simpa using validateOptions_or_even o.options heven
    · have heven : OptionsSelected.logRotFileLog % 2 = 0 := rfl
      simpa using validateOptions_or_even o.options heven
    · rfl

/-- Each log is on when its option is given. -/
theorem logs_take (o : Options) (event : Event) :
    ((o.take event).logStdout = true ↔ event.val = some 'o' ∨ o.logStdout = true) ∧
      ((o.take event).logRotFileLog = true ↔
        event.val = some 'r' ∨ o.logRotFileLog = true) := by
  unfold take
  cases hfile : configFile event with
  | some file =>
    have hc : event.val = some 'c' := (isSome_configFile_iff event).mp (by rw [hfile]; rfl)
    simp [hc]
  | none =>
    by_cases ho : event.val = some 'o'
    · simp [ho]
    by_cases hr : event.val = some 'r'
    · simp [hr]
    · simp [ho, hr]

theorem libconfigcfg_take (o : Options) (event : Event) :
    (o.take event).libconfigcfg = (configFile event).getD o.libconfigcfg := by
  unfold take
  cases configFile event with
  | some file => rfl
  | none => split_ifs <;> rfl

/-- A member that some calls set is set at the end when such a call is made. -/
theorem foldl_take_iff {member : Options → Bool} {c : Char}
    (hmember : ∀ o event, member (take o event) = true ↔ event.val = some c ∨ member o = true)
    (o : Options) (events : List Event) :
    member (events.foldl take o) = true ↔
      (∃ event ∈ events, event.val = some c) ∨ member o = true := by
  induction events generalizing o with
  | nil => simp
  | cons event events ih =>
    rw [List.foldl_cons, ih, hmember, List.exists_mem_cons_iff, or_assoc, or_left_comm]

/-- The file is the one that is named last. -/
theorem libconfigcfg_foldl_take (o : Options) (events : List Event) :
    (events.foldl take o).libconfigcfg =
      (events.filterMap configFile).getLastD o.libconfigcfg := by
  induction events generalizing o with
  | nil => rfl
  | cons event events ih =>
    rw [List.foldl_cons, ih, libconfigcfg_take]
    cases hfile : configFile event with
    | none => rw [List.filterMap_cons_none hfile, Option.getD_none]
    | some file => rw [List.filterMap_cons_some hfile, Option.getD_some, List.getLastD_cons]

/-! ## The parse -/

/-- The members after a parse of the command line. -/
def parsed (args : List String) : Options := (spec.scan args).foldl take {}

/-- The command line is accepted: there are only the options of the program, without `-h`, and
    a file is named. -/
def Accepted (args : List String) : Prop :=
  (∀ event ∈ spec.scan args, Takes event) ∧ ∃ event ∈ spec.scan args, event.val = some 'c'

instance (args : List String) : Decidable (Accepted args) := by
  unfold Accepted
  infer_instance

/-- The file that the command line names last. -/
def namedFile (args : List String) : String :=
  ((spec.scan args).filterMap configFile).getLastD ""

theorem libconfigcfg_parsed (args : List String) :
    (parsed args).libconfigcfg = namedFile args :=
  libconfigcfg_foldl_take {} (spec.scan args)

theorem validateOptions_parsed (args : List String) :
    (parsed args).validateOptions = true ↔ ∃ event ∈ spec.scan args, event.val = some 'c' := by
  rw [parsed, foldl_take_iff validateOptions_take, or_iff_left]
  exact Bool.false_ne_true

theorem logStdout_parsed (args : List String) :
    (parsed args).logStdout = true ↔ ∃ event ∈ spec.scan args, event.val = some 'o' := by
  rw [parsed, foldl_take_iff fun o event => (logs_take o event).1, or_iff_left]
  exact Bool.false_ne_true

theorem logRotFileLog_parsed (args : List String) :
    (parsed args).logRotFileLog = true ↔ ∃ event ∈ spec.scan args, event.val = some 'r' := by
  rw [parsed, foldl_take_iff fun o event => (logs_take o event).2, or_iff_left]
  exact Bool.false_ne_true

theorem parse_eq_returned {args : List String}
    (hhelp : ∀ event ∈ spec.scan args, event.val ≠ some 'h') :
    ∃ stdout, parse {} args = .returned (decide (Accepted args)) (parsed args) stdout := by
  obtain ⟨stdout, hloop⟩ := parseLoop_eq_returned {} true [] hhelp
  refine ⟨stdout, ?_⟩
  have hresult : (decide (∀ event ∈ spec.scan args, Takes event) &&
      (parsed args).validateOptions) = decide (Accepted args) := by
    rw [Bool.eq_iff_iff, Bool.and_eq_true, validateOptions_parsed, decide_eq_true_iff,
      decide_eq_true_iff]
    rfl
  unfold parse parseInputOptions
  rw [hloop, Bool.true_and]
  exact congrArg (fun result => Parsed.returned result (parsed args) stdout) hresult

theorem parse_eq_exited {args : List String}
    (hhelp : ∃ event ∈ spec.scan args, event.val = some 'h') :
    ∃ before, parse {} args = .exited (before ++ help) := by
  obtain ⟨before, hloop⟩ := parseLoop_eq_exited {} true [] hhelp
  exact ⟨before, by rw [parse, parseInputOptions, hloop]⟩

/-- An accepted command line has no `-h`. -/
theorem Accepted.not_help {args : List String} (h : Accepted args) :
    ∀ event ∈ spec.scan args, event.val ≠ some 'h' := by
  intro event hevent hval
  have htakes := h.1 event hevent
  rw [Takes, hval] at htakes
  simp at htakes

/-- For every command line: the process exits exactly if `-h` is among the options, and what it
    has printed then ends with the help text. If it goes on, the parse succeeds exactly if all
    options are options of the program and one of them names a file; that file is the one that is
    named last, and each log is on exactly if its option is there. -/
theorem command_line_decides (args : List String) :
    ((∃ stdout, parse {} args = .exited stdout) ↔
      ∃ event ∈ spec.scan args, event.val = some 'h') ∧
    (∀ stdout, parse {} args = .exited stdout → help <:+ stdout) ∧
    ∀ result o stdout, parse {} args = .returned result o stdout →
      (result = true ↔ Accepted args) ∧
      o.libconfigcfg = namedFile args ∧
      (o.logStdout = true ↔ ∃ event ∈ spec.scan args, event.val = some 'o') ∧
      (o.logRotFileLog = true ↔ ∃ event ∈ spec.scan args, event.val = some 'r') := by
  by_cases hhelp : ∃ event ∈ spec.scan args, event.val = some 'h'
  · obtain ⟨before, hparse⟩ := parse_eq_exited hhelp
    refine ⟨iff_of_true ⟨_, hparse⟩ hhelp, ?_, ?_⟩
    · intro stdout hexited
      rw [hparse] at hexited
      cases hexited
      exact List.suffix_append before help
    · intro result o stdout hreturned
      rw [hparse] at hreturned
      cases hreturned
  · have hnot : ∀ event ∈ spec.scan args, event.val ≠ some 'h' :=
      fun event hevent hval => hhelp ⟨event, hevent, hval⟩
    obtain ⟨stdout, hparse⟩ := parse_eq_returned hnot
    refine ⟨?_, ?_, ?_⟩
    · refine iff_of_false ?_ hhelp
      rintro ⟨stdout', hexited⟩
      rw [hparse] at hexited
      cases hexited
    · intro stdout' hexited
      rw [hparse] at hexited
      cases hexited
    · intro result o stdout' hreturned
      rw [hparse] at hreturned
      cases hreturned
      exact ⟨decide_eq_true_iff, libconfigcfg_parsed args, logStdout_parsed args,
        logRotFileLog_parsed args⟩

end OaiNssf.Options
