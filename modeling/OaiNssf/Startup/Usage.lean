import OaiNssf.Startup.CommandLine

/-!
# Command lines as `help` documents them

`help` gives a short and a long way to write each option. All of them work, in any order and
with operands between them, but for the long way to name the file.

* `documented_command_lines`: the ways that work.
* `long_config_option_rejected`: the one that does not, since the value of `libconfigcfg` in
  the table is one that the loop does not handle.
-/

namespace OaiNssf.Options

open GetOpt

/-! ## Words -/

/-- The options without an argument. -/
inductive Flag where
  | stdoutlog
  | rotatelog
  deriving DecidableEq, Repr

def Flag.letter : Flag → Char
  | .stdoutlog => 'o'
  | .rotatelog => 'r'

theorem Flag.letter_injective : Function.Injective Flag.letter := by
  intro flag flag' h
  cases flag with
  | stdoutlog =>
    cases flag' with
    | stdoutlog => rfl
    | rotatelog => exact absurd h (by decide)
  | rotatelog =>
    cases flag' with
    | stdoutlog => exact absurd h (by decide)
    | rotatelog => rfl

theorem Flag.letter_ne_c (flag : Flag) : flag.letter ≠ 'c' := by
  cases flag with
  | stdoutlog => decide
  | rotatelog => decide

/-- The entry of the table of long options. -/
def Flag.long : Flag → LongOption
  | .stdoutlog => ⟨"stdoutlog", .noArgument, 'o'⟩
  | .rotatelog => ⟨"rotatelog", .noArgument, 'r'⟩

/-- What a command line is made of: `-c file`, `-cfile` with a file name that is not empty,
    flags in one element, a long flag or as many letters of it as one likes, and operands. -/
inductive Word where
  | file (path : String)
  | attached (first : Char) (rest : List Char)
  | flags (first : Flag) (rest : List Flag)
  | longFlag (flag : Flag) (n : ℕ)
  | operand (arg : { arg : String // arg.toList.head? ≠ some '-' })

/-- The elements of a word. -/
def Word.write : Word → List String
  | .file path => ["-c", path]
  | .attached first rest => [String.ofList ('-' :: 'c' :: first :: rest)]
  | .flags first rest => [String.ofList ('-' :: (first :: rest).map Flag.letter)]
  | .longFlag flag n => [String.ofList ('-' :: '-' :: flag.long.name.toList.take (n + 1))]
  | .operand arg => [arg.val]

/-- The options of a word. -/
def Word.read : Word → List Event
  | .file path => [.option 'c' (some path)]
  | .attached first rest => [.option 'c' (some (String.ofList (first :: rest)))]
  | .flags first rest => (first :: rest).map fun flag => .option flag.letter none
  | .longFlag flag _ => [.option flag.letter none]
  | .operand _ => []

/-- The file that a word names. -/
def Word.configFile : Word → Option String
  | .file path => some path
  | .attached first rest => some (String.ofList (first :: rest))
  | _ => none

/-- The flags of a word. -/
def Word.setFlags : Word → List Flag
  | .flags first rest => first :: rest
  | .longFlag flag _ => [flag]
  | _ => []

theorem cluster_letters (fs : List Flag) :
    spec.cluster (fs.map Flag.letter) =
      (fs.map fun flag => .option flag.letter none, .options) := by
  induction fs with
  | nil => rfl
  | cons flag fs ih =>
    have hshort : spec.short flag.letter = some .noArgument := by
      cases flag with
      | stdoutlog => rfl
      | rotatelog => rfl
    rw [List.map_cons, Spec.cluster, hshort]
    dsimp only
    rw [ih]
    rfl

/-- Options of the table can be abbreviated: no two begin with the same letter. -/
theorem findLong_take {o : LongOption} (ho : o ∈ longOptions) (n : ℕ) :
    spec.findLong (o.name.toList.take (n + 1)) = some o := by
  have hfirst : ∀ o ∈ longOptions, o.name.toList ≠ [] ∧
      ∀ o' ∈ longOptions, o'.name.toList.head? = o.name.toList.head? → o' = o := by decide
  obtain ⟨hname, hfirst⟩ := hfirst o ho
  apply findLong_of_prefix ho hfirst
  · simpa using hname
  · exact List.take_prefix _ _

theorem eq_notMem_take {o : LongOption} (ho : o ∈ longOptions) (n : ℕ) :
    '=' ∉ o.name.toList.take (n + 1) := by
  have hnames : ∀ o ∈ longOptions, '=' ∉ o.name.toList := by decide
  exact fun h => hnames o ho (List.mem_of_mem_take h)

/-- An element with two dashes and at least one letter. -/
theorem element_long {o : LongOption} (ho : o ∈ longOptions) (n : ℕ) {value : List Char}
    (hvalue : ∀ c ∈ value.head?, c = '=') :
    spec.element ('-' :: '-' :: (o.name.toList.take (n + 1) ++ value)) = o.given value := by
  rw [← long_append (eq_notMem_take ho n) hvalue (findLong_take ho n)]
  have hname : ∀ o ∈ longOptions, o.name.toList ≠ [] := by decide
  obtain ⟨c, name, hcons⟩ := List.exists_cons_of_ne_nil (hname o ho)
  rw [hcons, List.take_succ_cons]
  rfl

theorem isWord_write (w : Word) : IsWord spec w.write w.read := by
  cases w with
  | file path =>
    have helement : spec.element "-c".toList = ([], .argument 'c') := by decide
    exact isWord_pair helement
  | attached first rest =>
    apply isWord_singleton
    rw [String.toList_ofList]
    rfl
  | flags first rest =>
    apply isWord_singleton
    rw [String.toList_ofList]
    have hletters := cluster_letters (first :: rest)
    cases first with
    | stdoutlog => exact hletters
    | rotatelog => exact hletters
  | longFlag flag n =>
    have hmem : flag.long ∈ longOptions := by
      cases flag with
      | stdoutlog => decide
      | rotatelog => decide
    have hvalue : ∀ c ∈ ([] : List Char).head?, c = '=' := by simp
    apply isWord_singleton
    rw [String.toList_ofList, ← List.append_nil (List.take _ _), element_long hmem n hvalue]
    cases flag with
    | stdoutlog => rfl
    | rotatelog => rfl
  | operand arg =>
    apply isWord_singleton
    exact element_of_head arg.property

/-! ## What is read -/

theorem scan_write (words : List Word) :
    spec.scan (words.flatMap Word.write) = words.flatMap Word.read :=
  scan_flatMap fun w _ => isWord_write w

theorem takes_of_mem_read {w : Word} {event : Event} (h : event ∈ w.read) : Takes event := by
  have hletter : ∀ flag : Flag, Takes (.option flag.letter none) := by
    intro flag
    cases flag with
    | stdoutlog => exact Or.inr (Or.inl rfl)
    | rotatelog => exact Or.inr (Or.inr rfl)
  cases w with
  | file path =>
    rw [List.mem_singleton.mp h]
    exact Or.inl rfl
  | attached first rest =>
    rw [List.mem_singleton.mp h]
    exact Or.inl rfl
  | flags first rest =>
    obtain ⟨flag, -, rfl⟩ := List.mem_map.mp h
    exact hletter flag
  | longFlag flag n =>
    rw [List.mem_singleton.mp h]
    exact hletter flag
  | operand arg => simp [Word.read] at h

theorem filterMap_configFile_read (w : Word) :
    w.read.filterMap configFile = w.configFile.toList := by
  have hletter : ∀ flag : Flag, configFile (.option flag.letter none) = none := by
    intro flag
    cases flag with
    | stdoutlog => rfl
    | rotatelog => rfl
  cases w with
  | file path => rfl
  | attached first rest => rfl
  | flags first rest =>
    rw [Word.read, List.filterMap_map]
    exact List.filterMap_eq_nil_iff.mpr fun flag _ => hletter flag
  | longFlag flag n =>
    rw [Word.read, List.filterMap_cons_none (hletter flag)]
    rfl
  | operand arg => rfl

theorem exists_mem_read_iff (w : Word) (flag : Flag) :
    (∃ event ∈ w.read, event.val = some flag.letter) ↔ flag ∈ w.setFlags := by
  have hletter : ∀ flag' : Flag, flag'.letter = flag.letter ↔ flag' = flag :=
    fun flag' => Flag.letter_injective.eq_iff
  have hc : 'c' ≠ flag.letter := flag.letter_ne_c.symm
  cases w with
  | file path => simp [Word.read, Word.setFlags, Event.val, hc]
  | attached first rest => simp [Word.read, Word.setFlags, Event.val, hc]
  | flags first rest => simp [Word.read, Word.setFlags, Event.val, hletter, @eq_comm Flag flag]
  | longFlag flag' n => simp [Word.read, Word.setFlags, Event.val, hletter, @eq_comm Flag flag]
  | operand arg => simp [Word.read, Word.setFlags]

/-- A flag is read when a word has it. -/
theorem exists_mem_flatMap_read_iff (words : List Word) (flag : Flag) :
    (∃ event ∈ words.flatMap Word.read, event.val = some flag.letter) ↔
      ∃ w ∈ words, flag ∈ w.setFlags := by
  constructor
  · rintro ⟨event, hevent, hval⟩
    obtain ⟨w, hw, hmem⟩ := List.mem_flatMap.mp hevent
    exact ⟨w, hw, (exists_mem_read_iff w flag).mp ⟨event, hmem, hval⟩⟩
  · rintro ⟨w, hw, hflag⟩
    obtain ⟨event, hmem, hval⟩ := (exists_mem_read_iff w flag).mpr hflag
    exact ⟨event, List.mem_flatMap.mpr ⟨w, hw, hmem⟩, hval⟩

/-- The files that are read are those that the words name. -/
theorem filterMap_configFile_flatMap_read (words : List Word) :
    (words.flatMap Word.read).filterMap configFile = words.filterMap Word.configFile := by
  rw [List.filterMap_flatMap, List.filterMap_eq_flatMap_toList]
  exact List.flatMap_congr fun w _ => filterMap_configFile_read w

/-- Command lines of documented words, in any order and with operands between them: without a
    file they are refused, else they are accepted, with the file that is named last and with
    the logs whose flags are there. -/
theorem documented_command_lines (words : List Word) :
    ∃ o stdout, parse {} (words.flatMap Word.write) =
        .returned (decide (words.filterMap Word.configFile ≠ [])) o stdout ∧
      o.libconfigcfg = (words.filterMap Word.configFile).getLastD "" ∧
      (o.logStdout = true ↔ ∃ w ∈ words, .stdoutlog ∈ w.setFlags) ∧
      (o.logRotFileLog = true ↔ ∃ w ∈ words, .rotatelog ∈ w.setFlags) := by
  have htakes : ∀ event ∈ words.flatMap Word.read, Takes event := by
    intro event hevent
    obtain ⟨w, -, hmem⟩ := List.mem_flatMap.mp hevent
    exact takes_of_mem_read hmem
  have hhelp : ∀ event ∈ spec.scan (words.flatMap Word.write), event.val ≠ some 'h' := by
    intro event hevent hval
    rw [scan_write] at hevent
    have htake := htakes event hevent
    rw [Takes, hval] at htake
    simp at htake
  have hfiles : (∃ event ∈ words.flatMap Word.read, event.val = some 'c') ↔
      words.filterMap Word.configFile ≠ [] := by
    rw [← filterMap_configFile_flatMap_read, ne_eq, List.filterMap_eq_nil_iff]
    simp only [← isSome_configFile_iff, ← Option.ne_none_iff_isSome]
    push Not
    rfl
  have haccepted : Accepted (words.flatMap Word.write) ↔
      words.filterMap Word.configFile ≠ [] := by
    rw [Accepted, scan_write, hfiles, and_iff_right htakes]
  obtain ⟨stdout, hparse⟩ := parse_eq_returned hhelp
  refine ⟨parsed (words.flatMap Word.write), stdout, ?_, ?_, ?_, ?_⟩
  · rw [hparse, decide_eq_decide.mpr haccepted]
  · rw [libconfigcfg_parsed, namedFile, scan_write, filterMap_configFile_flatMap_read]
  · rw [logStdout_parsed, scan_write]
    exact exists_mem_flatMap_read_iff words .stdoutlog
  · rw [logRotFileLog_parsed, scan_write]
    exact exists_mem_flatMap_read_iff words .rotatelog

/-! ## The long option for the file -/

/-- The entry of `libconfigcfg` in the table. -/
def fileOption : LongOption := ⟨"libconfigcfg", .requiredArgument, 'f'⟩

/-- The element `--libconfigcfg`, or an abbreviation of it, with `=value` if there is a
    value. -/
def longFile (n : ℕ) (value : Option (List Char)) : String :=
  String.ofList ('-' :: '-' :: (fileOption.name.toList.take (n + 1) ++
    (value.map fun v => '=' :: v).getD []))

/-- Where the long option for the file is read, something is read that the loop refuses. -/
theorem exists_mem_scan_longFile {before : List String}
    (hmode : spec.modeAfter .options before = .options) (n : ℕ) (value : Option (List Char))
    (after : List String) :
    ∃ event ∈ spec.scan (before ++ longFile n value :: after), ¬Takes event := by
  have hvalue : ∀ c ∈ ((value.map fun v => '=' :: v).getD []).head?, c = '=' := by
    cases value <;> simp
  have helement : spec.element (longFile n value).toList =
      fileOption.given ((value.map fun v => '=' :: v).getD []) := by
    rw [longFile, String.toList_ofList]
    exact element_long (show fileOption ∈ longOptions by decide) n hvalue
  have hf : ∀ optarg, ¬Takes (.option 'f' optarg) := by simp [Takes, Event.val]
  rw [Spec.scan, scanFrom_append, hmode]
  cases value with
  | some v =>
    -- the value is in the element
    refine ⟨.option 'f' (some (String.ofList v)), ?_, hf _⟩
    rw [Spec.scanFrom, Spec.step, helement]
    exact List.mem_append_right _ List.mem_cons_self
  | none =>
    cases after with
    | nil =>
      -- no argument is left
      refine ⟨.unknown (some 'f'), ?_, by decide⟩
      rw [Spec.scanFrom, Spec.step, helement]
      exact List.mem_append_right _ List.mem_cons_self
    | cons file after =>
      refine ⟨.option 'f' (some file), ?_, hf _⟩
      rw [Spec.scanFrom, Spec.step, helement]
      exact List.mem_append_right _ List.mem_cons_self

/-- A command line that names a file as `help` says, by `--libconfigcfg` or an abbreviation of
    it, is never accepted, whatever stands before and after. -/
theorem long_config_option_rejected {before : List String}
    (hmode : spec.modeAfter .options before = .options) (n : ℕ) (value : Option (List Char))
    (after : List String) (o : Options) (stdout : List String) :
    parse {} (before ++ longFile n value :: after) ≠ .returned true o stdout := by
  intro h
  obtain ⟨event, hevent, htakes⟩ := exists_mem_scan_longFile hmode n value after
  by_cases hhelp : ∃ event ∈ spec.scan (before ++ longFile n value :: after),
      event.val = some 'h'
  · obtain ⟨stdout', hparse⟩ := parse_eq_exited hhelp
    rw [hparse] at h
    cases h
  · have hnot : ∀ event ∈ spec.scan (before ++ longFile n value :: after),
        event.val ≠ some 'h' := fun event hevent hval => hhelp ⟨event, hevent, hval⟩
    obtain ⟨stdout', hparse⟩ := parse_eq_returned hnot
    rw [hparse] at h
    have haccepted : Accepted (before ++ longFile n value :: after) :=
      of_decide_eq_true (Options.Parsed.returned.inj h).1
    exact htakes (haccepted.1 event hevent)

/-- `nssf -c a --libconfigcfg b`. -/
theorem long_config_option_rejected_sample :
    parse {} ["-c", "a", "--libconfigcfg", "b"] ≠ .returned true (parsed ["-c", "b"]) [] := by
  have hmode : spec.modeAfter .options ["-c", "a"] = .options := by decide
  have hlong : longFile 11 none = "--libconfigcfg" := by decide
  have hrejected := long_config_option_rejected hmode 11 none ["b"] (parsed ["-c", "b"]) []
  rw [hlong] at hrejected
  exact hrejected

end OaiNssf.Options
