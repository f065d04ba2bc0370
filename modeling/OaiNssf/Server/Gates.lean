import OaiNssf.Server.Selection

/-!
# The home-PLMN and TAI gates of the NS Selection routes

A registration or PDU-session selection is refused when a home PLMN is given, and when
a TAI is given that is not configured. Whether one is given is read off an empty MCC
and an empty TAC, which a decoded parameter may also have; and the HTTP/1 front end
drops a parameter on which `fromStringValue` returns `false`.

* `Http1.ok_iff`, `Http2.ok_iff`: a GET is answered with status 200 when both gates
  pass it and its slices are served.
* `gates_hold_iff`: the gates keep such a request out exactly when it is not one that
  bypasses a gate.
-/

namespace OaiNssf

open SliceSelect Decoding

variable (C : Common) (K : Codec) (cfg : NssfConfig)

/-- The statuses a server sends. -/
def statuses (actions : List Action) : List ℤ := actions.filterMap Action.status

/-! ## HTTP/1 -/

namespace Http1

/-- The home PLMN: decoded by `fromStringValue`, checked by its MCC. -/
def homeGate : Gate Exn PlmnId where
  decode := K.plmnIdFromStringValue
  default := {}
  check home := home.mcc = ""
  check_default := rfl

/-- The TAI: decoded by `fromStringValue`, checked if its TAC is not empty. -/
def taiGate : Gate Exn Tai where
  decode := K.taiFromStringValue
  default := {}
  check := TaAuthorised cfg
  check_default := Or.inl rfl

/-- The query without its home PLMN and TAI is one that is granted: an `nf-type` that
    decodes, no UE configuration update, and slices that are served. -/
def Selects (query : Query) : Prop :=
  (∃ nfType, decodeParam (query .nfType) K.nfTypeFromStringValue = .ok (some nfType)) ∧
    (∃ nfId, decodeParam (query .nfId) K.stringFromStringValue = .ok nfId) ∧
    query .sliceInfoRequestForUeCu = none ∧
    (∃ features, decodeParam (query .supportedFeatures) K.stringFromStringValue = .ok features) ∧
    ∃ registration pduSession,
      decodeParam (query .sliceInfoRequestForRegistration)
        (fromStringValueHelper K.parseSliceInfoForRegistration) = .ok registration ∧
      decodeParam (query .sliceInfoRequestForPduSession)
        (fromStringValueHelper K.parseSliceInfoForPDUSession) = .ok pduSession ∧
      SlicesServed C cfg registration pduSession

variable {C K cfg}

theorem opens_iff_decodeParam {α : Type} {g : Gate Exn α} {param : Option String} :
    g.Opens param ↔ ∃ v, decodeParam param g.decode = .ok v ∧ g.check (v.getD g.default) := by
  cases param with
  | none =>
    refine iff_of_true Gate.opens_none ⟨none, rfl, g.check_default⟩
  | some s =>
    simp only [Gate.Opens, Gate.value, map_eq_ok_iff, decodeParam]
    constructor
    · rintro ⟨a, ⟨v, hv, rfl⟩, hcheck⟩
      exact ⟨v, hv, hcheck⟩
    · rintro ⟨v, hv, hcheck⟩
      exact ⟨_, ⟨v, hv, rfl⟩, hcheck⟩

theorem ok_mem_nSSelectionGet_iff (p : SelectionParams) :
    HttpStatusCode.ok ∈ statuses (nSSelectionGet C cfg p) ↔
      (∃ nfType, p.nfType = some nfType) ∧ (runHandlers C cfg p).httpCode = HttpStatusCode.ok := by
  cases hnf : p.nfType with
  | none => simp [nSSelectionGet, hnf, statuses, Action.status]
  | some nfType =>
    obtain ⟨contentType, -, heq⟩ := nSSelectionGet_eq C cfg hnf
    have hmem : HttpStatusCode.ok ∈ statuses (nSSelectionGet C cfg p) ↔
        (runHandlers C cfg p).httpCode = HttpStatusCode.ok := by
      rw [heq]
      simp [statuses, Action.status, eq_comm]
    rw [hmem]
    exact (and_iff_right ⟨nfType, rfl⟩).symm

/-- The exits that do not reach `n_s_selection_get` send 500 and 404. -/
theorem ok_mem_handler_iff {query : Query} :
    HttpStatusCode.ok ∈ statuses (nSSelectionGetHandler C K cfg query) ↔
      ∃ p, decodeQuery K query = .ok (some p) ∧
        HttpStatusCode.ok ∈ statuses (nSSelectionGet C cfg p) := by
  unfold nSSelectionGetHandler
  cases decodeQuery K query with
  | error e => simp [statuses, Action.status]
  | ok decoded =>
    cases decoded with
    | none => simp [statuses, Action.status]
    | some p => simp

/-- The HTTP/1 server answers a GET with status 200 when both gates pass it and the rest
    of the query is one that is granted. -/
theorem ok_iff {query : Query} :
    HttpStatusCode.ok ∈ statuses (nSSelectionGetHandler C K cfg query) ↔
      (homeGate K).Opens (query .homePlmnId) ∧ (taiGate K cfg).Opens (query .tai) ∧
        Selects C K cfg query := by
  simp only [ok_mem_handler_iff, ok_mem_nSSelectionGet_iff, runHandlers_ok_iff,
    decodeQuery_eq_some_iff, opens_iff_decodeParam]
  constructor
  · rintro ⟨p, ⟨h1, h2, h3, h4, hcu, h5, h6, h7⟩, ⟨nfType, hnf⟩, hhome, hta, hserved⟩
    rw [hnf] at h1
    exact ⟨⟨_, h5, hhome⟩, ⟨_, h6, hta⟩, ⟨nfType, h1⟩, ⟨_, h2⟩, hcu, ⟨_, h7⟩, _, _, h3, h4, hserved⟩
  · rintro ⟨⟨home, h5, hhome⟩, ⟨tai, h6, hta⟩, ⟨nfType, h1⟩, ⟨nfId, h2⟩, hcu, ⟨features, h7⟩,
      registration, pduSession, h3, h4, hserved⟩
    refine ⟨⟨some nfType, nfId, registration, pduSession, home, tai, features⟩,
      ⟨h1, h2, h3, h4, hcu, h5, h6, h7⟩, ⟨nfType, rfl⟩, hhome, hta, hserved⟩

end Http1

/-! ## HTTP/2 -/

namespace Http2

/-- The decoding of a parameter that is skipped when empty. -/
def parseGiven {α : Type} (parse : String → Except Exn α) : String → Except Exn (Option α) :=
  parseOptional (fun s => (parse s).map some) none

/-- The home PLMN: parsed if it is not empty, checked by its MCC. -/
def homeGate : Gate Exn PlmnId where
  decode := parseGiven K.parsePlmnId
  default := {}
  check home := home.mcc = ""
  check_default := rfl

/-- The TAI: parsed if it is not empty, checked if its TAC is not empty. -/
def taiGate : Gate Exn Tai where
  decode := parseGiven K.parseTai
  default := {}
  check := TaAuthorised cfg
  check_default := Or.inl rfl

/-- The query without its home PLMN and TAI is one that is granted: an accepted
    `nf-type`, and slice information, of a registration or else of a PDU session, that
    is served. -/
def Selects (query : Query) : Prop :=
  let registration := getQueryParam query .sliceInfoRequestForRegistration
  let pduSession := getQueryParam query .sliceInfoRequestForPduSession
  (getQueryParam query .nfType = nfTypeAmf ∨ getQueryParam query .nfType = nfTypeNssf) ∧
    ((registration ≠ "" ∧ ∃ si, K.parseSliceInfoForRegistration (cStr registration) = .ok si ∧
        RegistrationServed C cfg si) ∨
      (registration = "" ∧ pduSession ≠ "" ∧
        ∃ si, K.parseSliceInfoForPDUSession (cStr pduSession) = .ok si ∧
          PduSessionServed C cfg si))

variable {C K cfg}

theorem opens_iff_parseOptional {α : Type} {g : Gate Exn α} {parse : String → Except Exn α}
    (h : g.decode = parseGiven parse) (param : Option String) :
    g.Opens param ↔
      ∃ a, parseOptional parse g.default (param.getD "") = .ok a ∧ g.check a := by
  have hvalue : g.value param = parseOptional parse g.default (param.getD "") := by
    cases param with
    | none => rfl
    | some s =>
      rw [Gate.value, h]
      unfold parseGiven parseOptional
      by_cases hs : s = ""
      · simp [hs, Except.map]
      · simp only [ne_eq, hs, not_false_eq_true, if_true, Option.getD_some]
        cases parse (cStr s) <;> rfl
  rw [Gate.Opens, hvalue]

theorem ok_mem_selectionHandler_iff {nfType : String}
    {handle : App.SelectionState → App.SelectionState} :
    HttpStatusCode.ok ∈ statuses (selectionHandler nfType handle) ↔
      (nfType = nfTypeAmf ∨ nfType = nfTypeNssf) ∧ (handle {}).httpCode = HttpStatusCode.ok := by
  by_cases hnf : nfType = nfTypeAmf ∨ nfType = nfTypeNssf
  · rw [selectionHandler_of_accepted hnf, and_iff_right hnf]
    simp [statuses, Action.status, eq_comm]
  · rw [selectionHandler_of_refused hnf]
    exact iff_of_false (by simp [statuses, Action.status]) fun h => hnf h.1

/-- A call that throws sends 400 or nothing. -/
theorem ok_mem_onData_iff {query : Query} (data : List UInt8) :
    HttpStatusCode.ok ∈ statuses (nsSelectionOnData C K "GET" query cfg data).actions ↔
      ∃ r, decodeSelection K query = .ok r ∧
        HttpStatusCode.ok ∈ statuses (answerSelection C cfg query r) := by
  rw [nsSelectionOnData_get]
  cases decodeSelection K query with
  | ok r => simp [catchJson, Except.map]
  | error e => cases e <;> simp [catchJson, Except.map, statuses, Action.status]

/-- One call of the HTTP/2 callback for a GET sends status 200 when both gates pass the
    query and the rest of it is one that is granted. -/
theorem ok_iff {query : Query} (data : List UInt8) :
    HttpStatusCode.ok ∈ statuses (nsSelectionOnData C K "GET" query cfg data).actions ↔
      (homeGate K).Opens (query .homePlmnId) ∧ (taiGate K cfg).Opens (query .tai) ∧
        Selects C K cfg query := by
  rw [ok_mem_onData_iff, opens_iff_parseOptional (show (homeGate K).decode = _ from rfl),
    opens_iff_parseOptional (show (taiGate K cfg).decode = _ from rfl)]
  simp only [decodeSelection_eq_ok_iff]
  constructor
  · rintro ⟨r, ⟨home, tai, hhome, htai, hslices⟩, hok⟩
    rcases hslices with ⟨hreg, si, hsi, rfl⟩ | ⟨hreg, hpdu, si, hsi, rfl⟩ | ⟨-, -, rfl⟩
    · obtain ⟨hnf, hcode⟩ := ok_mem_selectionHandler_iff.mp hok
      obtain ⟨hmcc, hta, hserved⟩ | ⟨hcode, -⟩ := (App.registration_ok_iff _ _ _ _).mp hcode
      · exact ⟨⟨home, hhome, hmcc⟩, ⟨tai, htai, hta⟩, hnf, Or.inl ⟨hreg, si, hsi, hserved⟩⟩
      · exact absurd hcode App.SelectionState.fresh_ne_ok
    · obtain ⟨hnf, hcode⟩ := ok_mem_selectionHandler_iff.mp hok
      obtain ⟨hmcc, hta, hserved⟩ := (App.pduSession_ok_iff _ _ _ _).mp hcode
      exact ⟨⟨home, hhome, hmcc⟩, ⟨tai, htai, hta⟩, hnf, Or.inr ⟨hreg, hpdu, si, hsi, hserved⟩⟩
    · simp [answerSelection, getSliceInfoDefaultHandler, statuses] at hok
  · rintro ⟨⟨home, hhome, hmcc⟩, ⟨tai, htai, hta⟩, hnf, hslices⟩
    rcases hslices with ⟨hreg, si, hsi, hserved⟩ | ⟨hreg, hpdu, si, hsi, hserved⟩
    · refine ⟨.registration si tai home, ⟨home, tai, hhome, htai, Or.inl ⟨hreg, si, hsi, rfl⟩⟩, ?_⟩
      refine ok_mem_selectionHandler_iff.mpr ⟨hnf, ?_⟩
      exact (App.registration_ok_iff _ _ _ _).mpr (Or.inl ⟨hmcc, hta, hserved⟩)
    · refine ⟨.pduSession si tai home,
        ⟨home, tai, hhome, htai, Or.inr (Or.inl ⟨hreg, hpdu, si, hsi, rfl⟩)⟩, ?_⟩
      refine ok_mem_selectionHandler_iff.mpr ⟨hnf, ?_⟩
      exact (App.pduSession_ok_iff _ _ _ _).mpr ⟨hmcc, hta, hserved⟩

end Http2

/-! ## Both servers -/

open Callback

/-- With a home PLMN that is not empty, status 200 is not sent; with such a TAI, it is
    sent only when the TAI decodes to a configured one. -/
def GatesHold (decodesTai : String → Tai → Prop) (query : Query) (codes : List ℤ) : Prop :=
  (∀ s, query .homePlmnId = some s → s ≠ "" → HttpStatusCode.ok ∉ codes) ∧
    ∀ s, query .tai = some s → s ≠ "" → HttpStatusCode.ok ∈ codes →
      ∃ tai, decodesTai s tai ∧ TaConfigured cfg tai

/-- The query passes both gates and bypasses one of them: its home PLMN does not decode
    or has an empty MCC, or its TAI does not decode, or has an empty TAC and is not
    configured. -/
def Bypasses (homeGate : Gate Exn PlmnId) (taiGate : Gate Exn Tai) (query : Query) : Prop :=
  homeGate.Opens (query .homePlmnId) ∧ taiGate.Opens (query .tai) ∧
    (homeGate.Bypassed (fun _ => False) (query .homePlmnId) ∨
      taiGate.Bypassed (TaConfigured cfg) (query .tai))

variable {cfg}

theorem gatesHold_iff {homeGate : Gate Exn PlmnId} {taiGate : Gate Exn Tai}
    {decodesTai : String → Tai → Prop} {query : Query} {codes : List ℤ} {selects : Prop}
    (hdecodes : ∀ s tai, s ≠ "" → (decodesTai s tai ↔ taiGate.decode s = .ok (some tai)))
    (hok : HttpStatusCode.ok ∈ codes ↔
      homeGate.Opens (query .homePlmnId) ∧ taiGate.Opens (query .tai) ∧ selects) :
    GatesHold cfg decodesTai query codes ↔ ¬(selects ∧ Bypasses cfg homeGate taiGate query) := by
  have hhold : GatesHold cfg decodesTai query codes ↔
      (HttpStatusCode.ok ∈ codes → homeGate.Authorises (fun _ => False) (query .homePlmnId) ∧
        taiGate.Authorises (TaConfigured cfg) (query .tai)) := by
    constructor
    · rintro ⟨hhome, htai⟩ hmem
      refine ⟨fun s hs hne => absurd hmem (hhome s hs hne), fun s hs hne => ?_⟩
      obtain ⟨tai, hdec, hconf⟩ := htai s hs hne hmem
      exact ⟨tai, (hdecodes s tai hne).mp hdec, hconf⟩
    · intro h
      refine ⟨fun s hs hne hmem => ?_, fun s hs hne hmem => ?_⟩
      · obtain ⟨-, -, hfalse⟩ := (h hmem).1 s hs hne
        exact hfalse
      · obtain ⟨tai, hdec, hconf⟩ := (h hmem).2 s hs hne
        exact ⟨tai, (hdecodes s tai hne).mpr hdec, hconf⟩
  rw [hhold, hok]
  constructor
  · rintro h ⟨hsel, hhome, htai, hbypass⟩
    obtain ⟨hauthHome, hauthTai⟩ := h ⟨hhome, htai, hsel⟩
    rcases hbypass with hbypass | hbypass
    · exact (Gate.bypassed_iff hhome).mp hbypass hauthHome
    · exact (Gate.bypassed_iff htai).mp hbypass hauthTai
  · rintro h ⟨hhome, htai, hsel⟩
    refine ⟨?_, ?_⟩
    · by_contra hnot
      exact h ⟨hsel, hhome, htai, Or.inl ((Gate.bypassed_iff hhome).mpr hnot)⟩
    · by_contra hnot
      exact h ⟨hsel, hhome, htai, Or.inr ((Gate.bypassed_iff htai).mpr hnot)⟩

/-- The statuses of an HTTP/2 GET are those of one call. -/
theorem mem_statuses_nsSelectionRoute_iff {C : Common} {K : Codec} (r : Http2.Request)
    (hget : r.method = "GET") (code : ℤ) :
    code ∈ statuses (Http2.nsSelectionRoute C K cfg r).actions ↔
      code ∈ statuses (Http2.nsSelectionOnData C K "GET" r.query cfg []).actions := by
  have hstate := Http2.nsSelectionOnData_state C K "GET" r.query cfg []
  unfold statuses Http2.nsSelectionRoute Http2.Request.calls
  rw [hget]
  simp only [List.mem_filterMap]
  refine exists_congr fun a => and_congr_left fun _ => ?_
  exact mem_actions_run_of_const (fun _ => rfl) hstate _ _ a

/-- On either server, the gates hold for a GET exactly when it is not one that is
    granted while it bypasses a gate. -/
theorem gates_hold_iff (C : Common) (K : Codec) (cfg : NssfConfig) (query : Query) :
    (∀ nfId body,
      GatesHold cfg (fun s tai => K.taiFromStringValue s = .ok (some tai)) query
          (statuses (Http1.nsSelectionRoute C K cfg ⟨"GET", nfId, query, body⟩)) ↔
        ¬(Http1.Selects C K cfg query ∧
          Bypasses cfg (Http1.homeGate K) (Http1.taiGate K cfg) query)) ∧
    (∀ path chunks,
      GatesHold cfg (fun s tai => K.parseTai (cStr s) = .ok tai) query
          (statuses (Http2.nsSelectionRoute C K cfg ⟨"GET", path, query, chunks⟩).actions) ↔
        ¬(Http2.Selects C K cfg query ∧
          Bypasses cfg (Http2.homeGate K) (Http2.taiGate K cfg) query)) := by
  refine ⟨fun nfId body => ?_, fun path chunks => ?_⟩
  · exact gatesHold_iff (fun _ _ _ => Iff.rfl) Http1.ok_iff
  · refine gatesHold_iff (fun s tai hs => ?_) ?_
    · simp only [Http2.taiGate, Http2.parseGiven, Http2.parseOptional, ne_eq, hs,
        not_false_eq_true, if_true, map_eq_ok_iff, Option.some.injEq, exists_eq_right]
    · rw [mem_statuses_nsSelectionRoute_iff _ rfl]
      exact Http2.ok_iff []

/-- A query with a TAI of an empty TAC, for a UE whose slice one AMF serves. -/
def emptyTacQuery : Query
  | .nfType => some "AMF"
  | .nfId => some "amf-1"
  | .sliceInfoRequestForRegistration => some registrationText
  | .tai => some emptyTacText
  | _ => none

/-- A configuration with one AMF and one TAI, which is not the one of the query. -/
def otherTaiConfig : NssfConfig where
  taInfoList := [{ tai := { plmnId := ⟨"208", "95"⟩, tac := "0xa000" } }]
  amfInfoList :=
    [{ targetAmfSet := "set-1",
       amfList := [("amf-1", [{ supportedSnssaiList := [⟨222, none⟩] }])] }]

/-- Both servers answer it with status 200. -/
theorem empty_tac_bypasses :
    ¬GatesHold otherTaiConfig (fun s tai => sampleCodec.taiFromStringValue s = .ok (some tai))
        emptyTacQuery (statuses (Http1.nsSelectionRoute sampleCommon sampleCodec otherTaiConfig
          { method := "GET", query := emptyTacQuery })) ∧
      ¬GatesHold otherTaiConfig (fun s tai => sampleCodec.parseTai (cStr s) = .ok tai)
        emptyTacQuery (statuses (Http2.nsSelectionRoute sampleCommon sampleCodec otherTaiConfig
          { method := "GET", query := emptyTacQuery }).actions) := by
  have hta : ¬TaConfigured otherTaiConfig { plmnId := ⟨"001", "01"⟩ } := by
    rw [← validateTa_iff]
    decide
  refine ⟨fun h => ?_, fun h => ?_⟩
  · obtain ⟨tai, hdec, hconf⟩ := h.2 emptyTacText rfl (by decide) (by decide)
    cases hdec
    exact hta hconf
  · obtain ⟨tai, hdec, hconf⟩ := h.2 emptyTacText rfl (by decide) (by decide)
    cases hdec
    exact hta hconf

end OaiNssf
