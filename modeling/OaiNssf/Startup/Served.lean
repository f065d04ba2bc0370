import OaiNssf.Config.Reload
import OaiNssf.Config.RoundTrip
import OaiNssf.Server.Unread
import OaiNssf.Startup.CommandLine

/-!
# From the command line to the responses

What has to hold for `main` to start a server, and what it then answers from. Loading loses two
fields of a slice configuration, which no handler reads: a server that is started on the document
of a configuration responds as one that has this configuration.

* `server_starts_iff`: when a server is started, and on which lists.
* `served_as_written`: what it responds, in terms of the configuration that was written.
-/

namespace OaiNssf

open Options Main Config Callback
open SliceSelect (sampleCommon)

variable {Node : Type} {Y : Yaml Node} {E : Environment Node}

/-! ## Starting -/

theorem init_eq_true_iff {configPath : String} {cfg cfg' : NssfConfig} :
    Config.init Y E configPath cfg = .ok (true, cfg') ↔
      (E.init configPath).1 = true ∧
        parseConfig Y (E.loadFile (E.init configPath).2.sliceConfigPath) cfg =
          .ok (true, cfg') := by
  unfold Config.init
  cases hresult : (E.init configPath).1 with
  | false => simp [hresult]
  | true => simp [hresult]

/-- A server is started when `init` succeeds and the PID file is locked, as the version says. -/
theorem start_eq_iff {configPath : String} {cfg : NssfConfig} :
    (start Y E configPath = .http1 cfg ↔
      Config.init Y E configPath {} = .ok (true, cfg) ∧ E.isPidFileLockSuccess = true ∧
        (E.init configPath).2.httpVersion = 1) ∧
    (start Y E configPath = .http2 cfg ↔
      Config.init Y E configPath {} = .ok (true, cfg) ∧ E.isPidFileLockSuccess = true ∧
        (E.init configPath).2.httpVersion = 2) := by
  unfold start
  cases hinit : Config.init Y E configPath {} with
  | error e => simp
  | ok out =>
    obtain ⟨result, lists⟩ := out
    cases result with
    | false => simp
    | true =>
      cases hlock : E.isPidFileLockSuccess with
      | false => simp
      | true =>
        by_cases h1 : (E.init configPath).2.httpVersion = 1
        · simp [h1]
        · by_cases h2 : (E.init configPath).2.httpVersion = 2
          · simp [h2]
          · simp [h1, h2]

/-- What a server needs to run on these lists: an accepted command line, a configuration file
    that the base class accepts, a slice configuration with the three sections, of which the
    lists are the good prefixes, and the lock of the PID file. -/
structure Starts (Y : Yaml Node) (E : Environment Node) (args : List String) (cfg : NssfConfig) :
    Prop where
  accepted : Accepted args
  init : (E.init (namedFile args)).1 = true
  loaded : ∃ config nsi ta amf,
    E.loadFile (E.init (namedFile args)).2.sliceConfigPath = .ok config ∧
      HasSections Y config nsi ta amf ∧ cfg = added Y nsi ta amf
  lock : E.isPidFileLockSuccess = true

/-- An accepted command line leads past the options. -/
theorem main_of_accepted {args : List String} (h : Accepted args) :
    ∃ stdout, main Y E args = (start Y E (namedFile args), stdout) := by
  obtain ⟨stdout, hparse⟩ := parse_eq_returned h.not_help
  rw [decide_eq_true h] at hparse
  refine ⟨stdout, ?_⟩
  rw [main, hparse, ← libconfigcfg_parsed]

/-- Another one ends the process. -/
theorem main_of_not_accepted {args : List String} (h : ¬Accepted args) :
    (main Y E args).1 = .exited 0 ∨ (main Y E args).1 = .returned 1 := by
  unfold main
  by_cases hhelp : ∃ event ∈ spec.scan args, event.val = some 'h'
  · obtain ⟨stdout, hparse⟩ := parse_eq_exited hhelp
    rw [hparse]
    exact Or.inl rfl
  · have hnot : ∀ event ∈ spec.scan args, event.val ≠ some 'h' :=
      fun event hevent hval => hhelp ⟨event, hevent, hval⟩
    obtain ⟨stdout, hparse⟩ := parse_eq_returned hnot
    rw [hparse, decide_eq_false h]
    exact Or.inr rfl

theorem starts_iff {args : List String} {cfg : NssfConfig} :
    Starts Y E args cfg ↔ Accepted args ∧ Config.init Y E (namedFile args) {} = .ok (true, cfg) ∧
      E.isPidFileLockSuccess = true := by
  rw [init_eq_true_iff, parseConfig_eq_true_iff]
  simp only [NssfConfig.empty_append]
  constructor
  · rintro ⟨haccepted, hinit, hloaded, hlock⟩
    exact ⟨haccepted, ⟨hinit, hloaded⟩, hlock⟩
  · rintro ⟨haccepted, ⟨hinit, hloaded⟩, hlock⟩
    exact ⟨haccepted, hinit, hloaded, hlock⟩

/-- For every command line and environment: `main` starts a server of version 1 or 2, and starts
    it on these lists, exactly if the command line is accepted, the file that it names last gives
    this version, the slice configuration has the three sections and their good prefixes are
    the lists, and the PID file is locked. In particular, entries of a section that do not
    parse never keep it from starting a server. -/
theorem server_starts_iff (Y : Yaml Node) (E : Environment Node) (args : List String)
    (cfg : NssfConfig) :
    ((main Y E args).1 = .http1 cfg ↔
      Starts Y E args cfg ∧ (E.init (namedFile args)).2.httpVersion = 1) ∧
    ((main Y E args).1 = .http2 cfg ↔
      Starts Y E args cfg ∧ (E.init (namedFile args)).2.httpVersion = 2) := by
  by_cases haccepted : Accepted args
  · obtain ⟨stdout, hmain⟩ := main_of_accepted (Y := Y) (E := E) haccepted
    have hstarts : Starts Y E args cfg ↔ Config.init Y E (namedFile args) {} = .ok (true, cfg) ∧
        E.isPidFileLockSuccess = true := starts_iff.trans (and_iff_right haccepted)
    rw [hmain, start_eq_iff.1, start_eq_iff.2, hstarts, and_assoc, and_assoc]
    exact ⟨Iff.rfl, Iff.rfl⟩
  · have hnot : ¬Starts Y E args cfg := fun h => haccepted h.accepted
    rcases main_of_not_accepted (Y := Y) (E := E) haccepted with hmain | hmain
    · rw [hmain]
      simp [hnot]
    · rw [hmain]
      simp [hnot]

/-! ## Serving -/

/-- Nothing of what loading loses is read. -/
theorem readPart_loaded (v : SliceConfig) : v.loaded.readPart = v.toConfig.readPart := by
  have hset : ∀ set : AmfSetValue, (loadedAmfSet set).readPart = set.toAmfInfo.readPart := by
    intro set
    simp [loadedAmfSet, AmfSetValue.toAmfInfo, AmfInfo.readPart, loadedAmf, Function.comp_def,
      SupportedNssaiAvailabilityData.readPart]
  have hamf : (v.amfSets.map loadedAmfSet).map AmfInfo.readPart =
      (v.amfSets.map AmfSetValue.toAmfInfo).map AmfInfo.readPart := by
    rw [List.map_map, List.map_map]
    exact List.map_congr_left fun set _ => hset set
  have hta : (v.taInfoList.map fun item => { item with supoortedSnssai := [] }).map
      TaInfo.readPart = v.taInfoList.map TaInfo.readPart := by
    rw [List.map_map]
    rfl
  unfold SliceConfig.loaded SliceConfig.toConfig NssfConfig.readPart
  rw [hamf, hta]

/-- The process on a command line that is accepted, when `config::init` succeeds on the file that
    it names last, the slice configuration was written from `v`, and the PID file is locked: if
    the version is 1 or 2, that server is started, and on any run its responses are those of the
    configuration `v` as it was written. -/
theorem served_as_written {κ : Type} [DecidableEq κ] (C : Common) (K : Codec)
    (L : Http1.Libraries)
    (find : List (PathPattern.Pattern × Http1.Handler) → List String →
      Option (Http1.Handler × PathPattern.Params)) (P : Paths) {node : Tree → Node}
    (hY : Y.Loads node) {v : SliceConfig} (hv : v.IsInt32Sst) {args : List String}
    (haccepted : Accepted args) {loc : LocalConfig} (hinit : E.init (namedFile args) = (true, loc))
    (hfile : E.loadFile loc.sliceConfigPath = .ok (node (writeConfig v)))
    (hlock : E.isPidFileLockSuccess = true) :
    ∃ cfg, (loc.httpVersion = 1 → (main Y E args).1 = .http1 cfg) ∧
      (loc.httpVersion = 2 → (main Y E args).1 = .http2 cfg) ∧
      (∀ (requests : List (κ × Http1.RawRequest)) k,
        replies (ofSession k (Http1.serve C K L find P cfg requests).actions) =
          (ofSession k requests).map (Http1.respond C K L v.toConfig find P)) ∧
      ∀ (streams : κ → Http2.Stream) (calls : List (κ × List UInt8)),
        (Http2.serve C K streams cfg calls).escaped =
          (Http2.serve C K streams v.toConfig calls).escaped ∧
        ∀ k, replies (ofSession k (Http2.serve C K streams cfg calls).actions) =
          replies (ofSession k (Http2.serve C K streams v.toConfig calls).actions) := by
  have hloc : (E.init (namedFile args)).2 = loc := by rw [hinit]
  have hloaded : Config.init Y E (namedFile args) {} = .ok (true, v.loaded) := by
    rw [init_eq_true_iff, hinit, hfile]
    exact ⟨rfl, parseConfig_write hY hv⟩
  obtain ⟨stdout, hmain⟩ := main_of_accepted (Y := Y) (E := E) haccepted
  have hsame : SameHandlers C v.loaded v.toConfig :=
    sameHandlers_of_readPart C (readPart_loaded v)
  have hreplies := hsame.replies_eq (κ := κ) K L find P
  refine ⟨v.loaded, ?_, ?_, ?_, hreplies.2⟩
  · intro hversion
    rw [hmain]
    exact start_eq_iff.1.mpr ⟨hloaded, hlock, by rw [hloc, hversion]⟩
  · intro hversion
    rw [hmain]
    exact start_eq_iff.2.mpr ⟨hloaded, hlock, by rw [hloc, hversion]⟩
  · intro requests k
    rw [hreplies.1 requests k, Http1.replies_serve]

/-- An environment in which every file has this document, for a server of version 2. -/
def sampleEnvironment (document : Tree) : Environment (Option Tree) where
  init _ := (true, { httpVersion := 2 })
  loadFile _ := .ok (some document)
  isPidFileLockSuccess := true

/-- `nssf -c nssf.yaml -o`, on a configuration of which loading loses two fields. -/
theorem served_as_written_sample :
    let v := sampleSliceConfig [⟨222, none⟩] "95"
    ∃ cfg, (main treeYaml (sampleEnvironment (writeConfig v)) ["-c", "nssf.yaml", "-o"]).1 =
        .http2 cfg ∧
      replies (ofSession () (Http2.serve sampleCommon sampleCodec
          (fun _ => Http2.samplePut) cfg [((), [65])]).actions) =
        replies (ofSession () (Http2.serve sampleCommon sampleCodec
          (fun _ => Http2.samplePut) v.toConfig [((), [65])]).actions) := by
  intro v
  have hv : v.IsInt32Sst := sampleSliceConfig_isInt32Sst [⟨222, none⟩] "95"
  have haccepted : Accepted ["-c", "nssf.yaml", "-o"] := by decide
  obtain ⟨cfg, -, hmain, -, hserve⟩ := served_as_written (κ := Unit) sampleCommon sampleCodec
    Http1.sampleLibraries PathPattern.findFirst Http1.samplePaths treeYaml_loads hv
    (E := sampleEnvironment (writeConfig v)) haccepted rfl rfl rfl
  exact ⟨cfg, hmain rfl, (hserve _ _).2 ()⟩

end OaiNssf
