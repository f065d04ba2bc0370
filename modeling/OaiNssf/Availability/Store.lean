import OaiNssf.Lib.KeyedList
import OaiNssf.Model.Availability

/-!
# The AMF table under availability PUTs

What an availability PUT is for: the AMF table is a list of sets with AMFs, a PUT
sets the availability data of one AMF of one set, and registration selections read
the table. Abstractly this is `KeyedList.Nested.put` on the table.

`handle_create_nssai_availability` refines it in its answers only. It never
changes the table (`handleCreate_cfg`), so selections see an accepted PUT exactly
when it wrote what was configured already:

* `handleCreate_accepted_iff`: which PUTs are accepted;
* `availability_effective_iff`: the runs in which every selection reads the
  initial table with the accepted PUTs applied in order.
-/

namespace OaiNssf.SliceAvail

open KeyedList

/-! ## The table as a nested keyed list -/

/-- The AMFs of a set, keyed by `nfId`. -/
def amfSets : Nested AmfInfo String String (List SupportedNssaiAvailabilityData) where
  key := AmfInfo.targetAmfSet
  entries := AmfInfo.amfList
  setEntries set amfs := { set with amfList := amfs }
  key_setEntries _ _ := rfl
  entries_setEntries _ _ := rfl
  setEntries_entries _ := rfl
  setEntries_setEntries _ _ _ := rfl

/-- The PUT names a configured, non-empty AMF set. -/
def NamesConfiguredSet (cfg : NssfConfig) (info : NssaiAvailabilityInfo) (set : String) : Prop :=
  info.amfSetId = some set ∧ set ≠ "" ∧ amfSets.HasKey cfg.amfInfoList set

instance (cfg : NssfConfig) (set : String) : Decidable (amfSets.HasKey cfg.amfInfoList set) :=
  inferInstanceAs (Decidable (∃ a ∈ cfg.amfInfoList, a.targetAmfSet = set))

/-! ## The handler -/

theorem amfSetPresent_fst (set : String) (amfInfo : AmfInfo) (sets : List AmfInfo) :
    (amfSetPresent set amfInfo sets).1 = true ↔ ∃ a ∈ sets, a.targetAmfSet = set := by
  induction sets with
  | nil => simp [amfSetPresent]
  | cons a rest ih =>
    rw [amfSetPresent, List.exists_mem_cons_iff]
    by_cases h : a.targetAmfSet = set
    · simp [h]
    · rw [if_neg h, ih, or_iff_right h]

theorem replaceLoop_noContent (nfId : String) (data : List SupportedNssaiAvailabilityData)
    (httpCode : ℤ) (amfs : List (String × List SupportedNssaiAvailabilityData))
    (h : (replaceLoop nfId data httpCode amfs).1 = true) :
    (replaceLoop nfId data httpCode amfs).2 = HttpStatusCode.noContent := by
  induction amfs with
  | nil => simp [replaceLoop] at h
  | cons amf rest ih =>
    rw [replaceLoop] at h ⊢
    split_ifs at h ⊢ with heq
    · rfl
    · exact ih h

/-- The handler in closed form: it answers by the set named in the PUT, and the
    configuration comes back as it was. -/
theorem handleCreate_eq (cfg : NssfConfig) (nfId : String) (info : NssaiAvailabilityInfo)
    (httpCode : ℤ) (httpVersion : ℕ) :
    handleCreateNssaiAvailability cfg nfId info httpCode httpVersion =
      match info.amfSetId with
      | none => ⟨false, HttpStatusCode.serviceUnavailable, cfg⟩
      | some set =>
        if set = "" then ⟨true, httpCode, cfg⟩
        else if amfSets.HasKey cfg.amfInfoList set then ⟨true, HttpStatusCode.noContent, cfg⟩
        else ⟨false, HttpStatusCode.serviceUnavailable, cfg⟩ := by
  unfold handleCreateNssaiAvailability
  cases info.amfSetId with
  | none => rfl
  | some set =>
    by_cases hset : set = ""
    · simp [hset]
    · simp only [ne_eq, hset, not_false_eq_true, if_true, if_false]
      have hpresent := amfSetPresent_fst set {} cfg.amfInfoList
      generalize amfSetPresent set {} cfg.amfInfoList = found at hpresent
      obtain ⟨present, amfInfo⟩ := found
      by_cases hkey : amfSets.HasKey cfg.amfInfoList set
      · have htrue : present = true := hpresent.mpr hkey
        rw [if_pos hkey]
        simp only [htrue, if_true]
        have hcode := replaceLoop_noContent nfId info.supportedNssaiAvailabilityData httpCode
          amfInfo.amfList
        generalize replaceLoop nfId info.supportedNssaiAvailabilityData httpCode
          amfInfo.amfList = loop at hcode
        obtain ⟨updateDone, code⟩ := loop
        cases updateDone with
        | false => rfl
        | true =>
          have : code = HttpStatusCode.noContent := hcode rfl
          simp [this]
      · have hfalse : ¬present = true := fun h => hkey (hpresent.mp h)
        rw [if_neg hkey, if_neg hfalse]

/-- No PUT changes the configuration. -/
theorem handleCreate_cfg (cfg : NssfConfig) (nfId : String) (info : NssaiAvailabilityInfo)
    (httpCode : ℤ) (httpVersion : ℕ) :
    (handleCreateNssaiAvailability cfg nfId info httpCode httpVersion).cfg = cfg := by
  rw [handleCreate_eq]
  cases info.amfSetId with
  | none => rfl
  | some set => simp only; split_ifs <;> rfl

/-- The PUT was answered with `true` and status 204. -/
def Accepted (r : AvailabilityResult) : Prop :=
  r.result = true ∧ r.httpCode = HttpStatusCode.noContent

instance (r : AvailabilityResult) : Decidable (Accepted r) :=
  inferInstanceAs (Decidable (_ ∧ _))

/-- Entered with `http_code` 0, a PUT is accepted when it names a configured set. -/
theorem handleCreate_accepted_iff (cfg : NssfConfig) (nfId : String)
    (info : NssaiAvailabilityInfo) (httpVersion : ℕ) :
    Accepted (handleCreateNssaiAvailability cfg nfId info 0 httpVersion) ↔
      ∃ set, NamesConfiguredSet cfg info set := by
  rw [handleCreate_eq]
  unfold NamesConfiguredSet Accepted
  cases info.amfSetId with
  | none => simp
  | some set =>
    simp only [Option.some.injEq, exists_eq_left']
    split_ifs with hset hkey
    · exact iff_of_false (by simp) fun h => h.1 hset
    · exact iff_of_true ⟨rfl, rfl⟩ ⟨hset, hkey⟩
    · exact iff_of_false (by simp) fun h => hkey h.2

/-! ## Runs -/

/-- A request that reaches the table: an availability PUT, or a registration
    selection, which runs `get_valid_amfset` over it. -/
inductive Event where
  | put (nfId : String) (info : NssaiAvailabilityInfo) (httpVersion : ℕ)
  | select (sliceInfo : SliceInfoForRegistration) (tai : Tai) (homePlmnid : PlmnId)

/-- The configuration, and the table it should hold. -/
structure RunState where
  cfg : NssfConfig
  expected : List AmfInfo

/-- The table with an accepted PUT applied: the data of the AMF in the first set of
    that name replaced, or the AMF appended to it. -/
def applyPut (nfId : String) (info : NssaiAvailabilityInfo) (table : List AmfInfo) :
    List AmfInfo :=
  amfSets.put (info.amfSetId.getD "") nfId info.supportedNssaiAvailabilityData table

/-- One request: the handler acts on the configuration, and what it accepts is
    applied to the table that should result. -/
def step (st : RunState) : Event → RunState
  | .put nfId info httpVersion =>
    let r := handleCreateNssaiAvailability st.cfg nfId info 0 httpVersion
    { cfg := r.cfg
      expected := if Accepted r then applyPut nfId info st.expected else st.expected }
  | .select _ _ _ => st

/-- The state after the requests, from the initial configuration. -/
def runAll (cfg : NssfConfig) (events : List Event) : RunState :=
  events.foldl step { cfg := cfg, expected := cfg.amfInfoList }

/-- Every selection of the run reads the initial table with the accepted PUTs before
    it applied in order. -/
def Effective (cfg : NssfConfig) (events : List Event) : Prop :=
  ∀ pre si tai home post, events = pre ++ .select si tai home :: post →
    (runAll cfg pre).cfg.amfInfoList = (runAll cfg pre).expected

/-- The write that a request asks for, if it names a configured set. -/
def requestedWrite (cfg : NssfConfig) :
    Event → Option ((String × String) × List SupportedNssaiAvailabilityData)
  | .put nfId info _ =>
    match info.amfSetId with
    | none => none
    | some set =>
      if set ≠ "" ∧ amfSets.HasKey cfg.amfInfoList set then
        some ((set, nfId), info.supportedNssaiAvailabilityData)
      else none
  | .select _ _ _ => none

/-- The last PUT for each AMF of a configured set, among `events`, repeats the data
    that the initial table holds for it. -/
def LastPutsPresent (cfg : NssfConfig) (events : List Event) : Prop :=
  ∀ set nfId data, lastWrite (events.filterMap (requestedWrite cfg)) (set, nfId) = some data →
    amfSets.get cfg.amfInfoList set nfId = some data

theorem requestedWrite_configured {cfg : NssfConfig} {e : Event}
    {w : (String × String) × List SupportedNssaiAvailabilityData}
    (h : requestedWrite cfg e = some w) : amfSets.HasKey cfg.amfInfoList w.1.1 := by
  cases e with
  | select => simp [requestedWrite] at h
  | put nfId info v =>
    rw [requestedWrite] at h
    split at h
    · simp at h
    · split_ifs at h with hset
      rw [← Option.some.inj h]
      exact hset.2

/-- One request, in terms of the write it asks for. -/
theorem step_eq {cfg : NssfConfig} (table : List AmfInfo) (e : Event) :
    step { cfg := cfg, expected := table } e =
      { cfg := cfg, expected := amfSets.putAll (requestedWrite cfg e).toList table } := by
  cases e with
  | select => rfl
  | put nfId info v =>
    have haccepted := handleCreate_accepted_iff cfg nfId info v
    simp only [step, handleCreate_cfg, requestedWrite, RunState.mk.injEq, true_and]
    cases hid : info.amfSetId with
    | none =>
      rw [if_neg fun h => by simpa [NamesConfiguredSet, hid] using haccepted.mp h]
      rfl
    | some set =>
      by_cases hset : set ≠ "" ∧ amfSets.HasKey cfg.amfInfoList set
      · rw [if_pos (haccepted.mpr ⟨set, hid, hset⟩)]
        simp only [if_pos hset, applyPut, hid]
        rfl
      · have hnot : ¬∃ set, NamesConfiguredSet cfg info set := by
          rintro ⟨s, hs, h⟩
          rw [hid] at hs
          exact hset (Option.some.inj hs ▸ h)
        rw [if_neg fun h => hnot (haccepted.mp h)]
        simp only [if_neg hset]
        rfl

/-- After any run the configuration is the initial one, and the table it should hold
    is the initial table with the requested writes applied. -/
theorem runAll_eq (cfg : NssfConfig) (events : List Event) :
    runAll cfg events =
      { cfg := cfg
        expected := amfSets.putAll (events.filterMap (requestedWrite cfg)) cfg.amfInfoList } := by
  unfold runAll
  generalize cfg.amfInfoList = table
  induction events generalizing table with
  | nil => rfl
  | cons e events ih =>
    rw [List.foldl_cons, step_eq, ih, List.filterMap_cons]
    cases requestedWrite cfg e <;> rfl

/-- A selection after `events` reads what it should exactly when the last PUTs repeat
    the initial data. -/
theorem table_eq_expected_iff (cfg : NssfConfig) (events : List Event) :
    (runAll cfg events).cfg.amfInfoList = (runAll cfg events).expected ↔
      LastPutsPresent cfg events := by
  rw [runAll_eq, eq_comm]
  simp only [amfSets.putAll_eq_self_iff]
  constructor
  · intro h set nfId data hlast
    obtain ⟨e, -, he⟩ := List.mem_filterMap.mp (mem_of_lastWrite hlast)
    exact h set nfId data hlast (requestedWrite_configured he)
  · intro h set nfId data hlast _
    exact h set nfId data hlast

/-- The PUTs of a run are effective exactly when, before each selection, the last PUT
    for each AMF of a configured set repeats the initial data. -/
theorem availability_effective_iff (cfg : NssfConfig) (events : List Event) :
    Effective cfg events ↔
      ∀ pre si tai home post, events = pre ++ .select si tai home :: post →
        LastPutsPresent cfg pre := by
  unfold Effective
  simp only [table_eq_expected_iff]

/-- A PUT of `amf-1` in `set-1` that announces SST 222. -/
def announce222 : Event :=
  .put "amf-1"
    { supportedNssaiAvailabilityData := [{ supportedSnssaiList := [⟨222, none⟩] }]
      amfSetId := some "set-1" } 1

/-- With `amf-1` configured without data, the PUT is accepted and the selection
    that follows reads the table without the data. -/
theorem availability_put_lost :
    ¬Effective { amfInfoList := [{ targetAmfSet := "set-1", amfList := [("amf-1", [])] }] }
      [announce222, .select {} {} {}] := by
  intro h
  exact absurd (h [announce222] {} {} {} [] rfl) (by decide)

end OaiNssf.SliceAvail
