import OaiNssf.Server.Selection

/-!
# The two front ends on one NS Selection query

`n_s_selection_get` of the HTTP/1 server runs the PDU-session handler and then the
registration handler on the same `http_code` and `auth_slice_info`; the HTTP/2 route
runs the first that applies, from fresh ones. They also read `nf-type` and the UE
configuration update differently.

* `front_ends_agree_iff`: on a well-formed query, the exact condition under which the
  two send the same status and the same body.
-/

namespace OaiNssf

open SliceSelect Callback Decoding

variable {C : Common} {K : Codec} {cfg : NssfConfig}

/-! ## Well-formed queries -/

/-- The values of a query. -/
structure SelectionValues where
  nfType : String
  nfId : String
  registration : Option SliceInfoForRegistration := none
  pduSession : Option SliceInfoForPDUSession := none
  ueCu : Option SliceInfoForUEConfigurationUpdate := none
  homePlmnId : Option PlmnId := none
  tai : Option Tai := none
  supportedFeatures : Option String := none

/-- The query carries these values: a parameter is there when its value is, is not
    empty, and decodes to it on both servers. -/
structure WellFormed (K : Codec) (query : Query) (v : SelectionValues) : Prop where
  nfType : query .nfType = some v.nfType
  nfType_decodes : ∃ t, K.nfTypeFromStringValue v.nfType = .ok (some t)
  nfId : query .nfId = some v.nfId
  nfId_decodes : K.stringFromStringValue v.nfId = .ok (some v.nfId)
  registration : Option.Rel
    (fun s si => s ≠ "" ∧ K.parseSliceInfoForRegistration (cStr s) = .ok si)
    (query .sliceInfoRequestForRegistration) v.registration
  pduSession : Option.Rel
    (fun s si => s ≠ "" ∧ K.parseSliceInfoForPDUSession (cStr s) = .ok si)
    (query .sliceInfoRequestForPduSession) v.pduSession
  ueCu : Option.Rel
    (fun s si => s ≠ "" ∧ K.parseSliceInfoForUEConfigurationUpdate (cStr s) = .ok si)
    (query .sliceInfoRequestForUeCu) v.ueCu
  homePlmnId : Option.Rel
    (fun s home => s ≠ "" ∧ K.plmnIdFromStringValue s = .ok (some home) ∧
      K.parsePlmnId (cStr s) = .ok home)
    (query .homePlmnId) v.homePlmnId
  tai : Option.Rel
    (fun s tai => s ≠ "" ∧ K.taiFromStringValue s = .ok (some tai) ∧
      K.parseTai (cStr s) = .ok tai)
    (query .tai) v.tai
  supportedFeatures : Option.Rel
    (fun s features => s ≠ "" ∧ K.stringFromStringValue s = .ok (some features))
    (query .supportedFeatures) v.supportedFeatures

/-- What the JSON writers are relied on for: a text is never empty, and the member
    `nsiInformation` is written exactly when it is set. -/
structure Codec.Writes (K : Codec) : Prop where
  problemDetails_ne : ∀ details, K.dumpProblemDetails details ≠ ""
  nsiInformation : ∀ a b,
    K.dumpAuthorizedNetworkSliceInfo a = K.dumpAuthorizedNetworkSliceInfo b →
      a.nsiInformation.isSome = b.nsiInformation.isSome

theorem decodeParam_of_rel {α : Type} {R : String → α → Prop}
    {fromStringValue : String → Except Exn (Option α)}
    (hR : ∀ s a, R s a → fromStringValue s = .ok (some a)) {param : Option String}
    {value : Option α} (h : Option.Rel R param value) :
    Http1.decodeParam param fromStringValue = .ok value := by
  cases h with
  | none => rfl
  | some hsa => exact hR _ _ hsa

theorem parseOptional_of_rel {α : Type} {R : String → α → Prop}
    {parse : String → Except Exn α} (default : α)
    (hR : ∀ s a, R s a → s ≠ "" ∧ parse (cStr s) = .ok a) {param : Option String}
    {value : Option α} (h : Option.Rel R param value) :
    Http2.parseOptional parse default (param.getD "") = .ok (value.getD default) := by
  cases h with
  | none => rfl
  | some hsa =>
    obtain ⟨hne, hparse⟩ := hR _ _ hsa
    rw [Option.getD_some, Http2.parseOptional, if_pos hne, hparse]
    rfl

/-- The arguments of `n_s_selection_get` for these values. -/
def SelectionValues.params (v : SelectionValues) : Http1.SelectionParams where
  nfType := some {}
  nfId := some v.nfId
  sliceInfoRequestForRegistration := v.registration
  sliceInfoRequestForPduSession := v.pduSession
  homePlmnId := v.homePlmnId
  tai := v.tai
  supportedFeatures := v.supportedFeatures

/-- What the HTTP/2 block decodes for these values. -/
def SelectionValues.request (v : SelectionValues) : Http2.SelectionRequest :=
  match v.registration, v.pduSession with
  | some si, _ => .registration si (v.tai.getD {}) (v.homePlmnId.getD {})
  | none, some si => .pduSession si (v.tai.getD {}) (v.homePlmnId.getD {})
  | none, none => .neither

section WellFormed

variable {query : Query} {v : SelectionValues}

theorem rel_isSome_iff {α : Type} {R : String → α → Prop} {param : Option String}
    {value : Option α} (h : Option.Rel R param value) : param = none ↔ value = none := by
  cases h <;> simp

/-- The parameters of a well-formed query decode on HTTP/1. -/
theorem WellFormed.decodeParams (hq : WellFormed K query v) :
    Http1.decodeParam (query .nfType) K.nfTypeFromStringValue = .ok (some {}) ∧
      Http1.decodeParam (query .nfId) K.stringFromStringValue = .ok (some v.nfId) ∧
      Http1.decodeParam (query .sliceInfoRequestForRegistration)
        (Http1.fromStringValueHelper K.parseSliceInfoForRegistration) = .ok v.registration ∧
      Http1.decodeParam (query .sliceInfoRequestForPduSession)
        (Http1.fromStringValueHelper K.parseSliceInfoForPDUSession) = .ok v.pduSession ∧
      Http1.decodeParam (query .homePlmnId) K.plmnIdFromStringValue = .ok v.homePlmnId ∧
      Http1.decodeParam (query .tai) K.taiFromStringValue = .ok v.tai ∧
      Http1.decodeParam (query .supportedFeatures) K.stringFromStringValue =
        .ok v.supportedFeatures := by
  obtain ⟨⟨⟩, hnf⟩ := hq.nfType_decodes
  refine ⟨?_, ?_, ?_, ?_, ?_, ?_, ?_⟩
  · rw [hq.nfType]
    exact hnf
  · rw [hq.nfId]
    exact hq.nfId_decodes
  · exact decodeParam_of_rel (fun s si h => map_eq_ok_iff.mpr ⟨si, h.2, rfl⟩) hq.registration
  · exact decodeParam_of_rel (fun s si h => map_eq_ok_iff.mpr ⟨si, h.2, rfl⟩) hq.pduSession
  · exact decodeParam_of_rel (fun s home h => h.2.1) hq.homePlmnId
  · exact decodeParam_of_rel (fun s tai h => h.2.1) hq.tai
  · exact decodeParam_of_rel (fun s features h => h.2) hq.supportedFeatures

theorem WellFormed.decodeQuery_of_none (hq : WellFormed K query v) (hcu : v.ueCu = none) :
    Http1.decodeQuery K query = .ok (some v.params) := by
  obtain ⟨h1, h2, h3, h4, h5, h6, h7⟩ := hq.decodeParams
  exact Http1.decodeQuery_eq_some_iff.mpr
    ⟨h1, h2, h3, h4, (rel_isSome_iff hq.ueCu).mpr hcu, h5, h6, h7⟩

theorem WellFormed.decodeQuery_of_ueCu (hq : WellFormed K query v) (hcu : v.ueCu ≠ none) :
    Http1.decodeQuery K query = .ok none := by
  obtain ⟨h1, h2, h3, h4, -⟩ := hq.decodeParams
  have hrel := hq.ueCu
  cases hparam : query .sliceInfoRequestForUeCu with
  | none => exact absurd ((rel_isSome_iff hrel).mp hparam) hcu
  | some s =>
    obtain ⟨u, hu⟩ := Option.ne_none_iff_exists'.mp hcu
    rw [hparam, hu] at hrel
    cases hrel with
    | some h =>
      simp only [Http1.decodeQuery, h1, h2, h3, h4, hparam, Http1.fromStringValueHelper, h.2]
      rfl

/-- A well-formed query decodes on HTTP/2. -/
theorem WellFormed.decodeSelection_eq (hq : WellFormed K query v) :
    Http2.decodeSelection K query = .ok v.request := by
  have hhome := parseOptional_of_rel {} (fun s home h => ⟨h.1, h.2.2⟩) hq.homePlmnId
  have htai := parseOptional_of_rel {} (fun s tai h => ⟨h.1, h.2.2⟩) hq.tai
  refine Http2.decodeSelection_eq_ok_iff.mpr ⟨_, _, hhome, htai, ?_⟩
  have hreg := hq.registration
  have hpdu := hq.pduSession
  unfold SelectionValues.request Http2.getQueryParam
  generalize query .sliceInfoRequestForRegistration = regParam at hreg
  generalize query .sliceInfoRequestForPduSession = pduParam at hpdu
  generalize v.registration = registration at hreg
  generalize v.pduSession = pduSession at hpdu
  cases hreg with
  | some h => exact Or.inl ⟨h.1, _, h.2, rfl⟩
  | none =>
    cases hpdu with
    | some h => exact Or.inr (Or.inl ⟨rfl, h.1, _, h.2, rfl⟩)
    | none => exact Or.inr (Or.inr ⟨rfl, rfl, rfl⟩)

end WellFormed

/-! ## Answers -/

/-- The response both front ends send for the state the handlers leave. -/
def answer (K : Codec) (st : App.SelectionState) : ℤ × String := (st.httpCode, K.content st.body)

theorem responses_nSSelectionGet {p : Http1.SelectionParams} {nfType : NFType}
    (h : p.nfType = some nfType) :
    responses K (Http1.nSSelectionGet C cfg p) = [answer K (Http1.runHandlers C cfg p)] := by
  obtain ⟨contentType, -, heq⟩ := Http1.nSSelectionGet_eq C cfg h
  rw [heq]
  rfl

theorem responses_selectionHandler (nfType : String)
    (handle : App.SelectionState → App.SelectionState) :
    responses K (Http2.selectionHandler nfType handle) =
      if nfType = Http2.nfTypeAmf ∨ nfType = Http2.nfTypeNssf then [answer K (handle {})]
      else [(HttpStatusCode.badRequest, "")] := by
  by_cases h : nfType = Http2.nfTypeAmf ∨ nfType = Http2.nfTypeNssf
  · rw [if_pos h, Http2.selectionHandler_of_accepted h]
    rfl
  · rw [if_neg h, Http2.selectionHandler_of_refused h]
    rfl

/-- No state is answered as HTTP/2 answers a refused `nf-type`. -/
theorem answer_ne_refusal (hK : K.Writes) (st : App.SelectionState) :
    answer K st ≠ (HttpStatusCode.badRequest, "") := by
  intro h
  obtain ⟨hcode, hbody⟩ := Prod.ext_iff.mp h
  have hne : st.httpCode ≠ HttpStatusCode.ok := by
    rw [show st.httpCode = 400 from hcode]
    decide
  rw [answer, App.SelectionState.body, if_neg hne] at hbody
  exact hK.problemDetails_ne _ hbody

/-- On the state the PDU-session handler leaves, the registration handler is answered
    as from a fresh state exactly when it sets the status and not both are granted. -/
theorem answer_registration_eq_iff (hK : K.Writes) {v : RegistrationVerdict}
    {w : PduSessionVerdict} :
    let st := App.selectionExit (w.outcome {}) {}
    answer K (App.selectionExit (v.outcome st.httpCode st.authSliceInfo) st.problemDetails) =
        answer K (App.selectionExit (v.outcome 0 {}) {}) ↔
      ¬v.LeavesCode ∧ ¬((∃ allowed set candidates, v = .granted allowed set candidates) ∧
        ∃ nsiInfo, w = .granted nsiInfo) := by
  have hdetails : (App.selectionExit (w.outcome {}) {}).problemDetails = {} := by
    cases w <;> simp [App.selectionExit, PduSessionVerdict.outcome]
  have hzero : (App.selectionExit (w.outcome {}) {}).httpCode ≠ 0 := by
    cases w <;> simp [App.selectionExit, PduSessionVerdict.outcome]
  simp only [hdetails]
  cases v with
  | notSupported => exact iff_of_true rfl ⟨id, by simp⟩
  | taNotAuthorised =>
    refine iff_of_false (fun h => hzero ?_) fun h => h.1 trivial
    exact congrArg Prod.fst h
  | undecided =>
    refine iff_of_false (fun h => hzero ?_) fun h => h.1 trivial
    exact congrArg Prod.fst h
  | notInPlmn => exact iff_of_true rfl ⟨id, by simp⟩
  | noAmfSet => exact iff_of_true rfl ⟨id, by simp⟩
  | granted allowed set candidates =>
    cases w with
    | notSupported => exact iff_of_true rfl ⟨id, by simp⟩
    | badRequest => exact iff_of_true rfl ⟨id, by simp⟩
    | granted nsiInfo =>
      refine iff_of_false (fun h => ?_) fun h => h.2 ⟨⟨_, _, _, rfl⟩, ⟨_, rfl⟩⟩
      have hnsi := hK.nsiInformation _ _ (congrArg Prod.snd h)
      exact Bool.noConfusion (show true = false from hnsi)

/-! ## Agreement -/

/-- The condition under which the front ends agree: no UE configuration update, an
    `nf-type` that HTTP/2 accepts, and slice information for one of the two handlers; or
    for both, when the registration handler sets a status and not both are granted. -/
def FrontEndsAgree (C : Common) (cfg : NssfConfig) (v : SelectionValues) : Prop :=
  v.ueCu = none ∧ (v.nfType = Http2.nfTypeAmf ∨ v.nfType = Http2.nfTypeNssf) ∧
    match v.registration, v.pduSession with
    | some _, none => True
    | none, some _ => True
    | none, none => False
    | some si, some ps =>
      RegistrationDecided cfg si (v.tai.getD {}) (v.homePlmnId.getD {}) ∧
        ¬((v.homePlmnId.getD {}).mcc = "" ∧ TaAuthorised cfg (v.tai.getD {}) ∧
          RegistrationServed C cfg si ∧ PduSessionServed C cfg ps)

theorem responses_http2 {query : Query} {v : SelectionValues} (hq : WellFormed K query v) :
    responses K (Http2.nsSelectionRoute C K cfg { method := "GET", query := query }).actions =
      responses K (Http2.answerSelection C cfg query v.request) := by
  have hcalls : Http2.Request.calls { method := "GET", query := query } = [[]] := rfl
  rw [Http2.nsSelectionRoute, hcalls, run_singleton, Http2.nsSelectionOnData_get,
    hq.decodeSelection_eq]
  rfl

theorem responses_http1 {query : Query} {v : SelectionValues} (hq : WellFormed K query v)
    (hcu : v.ueCu = none) :
    responses K (Http1.nsSelectionRoute C K cfg { method := "GET", query := query }) =
      [answer K (Http1.runHandlers C cfg v.params)] := by
  rw [Http1.nsSelectionRoute, if_pos rfl, Http1.nSSelectionGetHandler,
    hq.decodeQuery_of_none hcu]
  exact responses_nSSelectionGet rfl

/-- With slice information for both handlers, HTTP/1 answers as the registration handler
    alone does exactly when that one sets the status and not both requests are served. -/
theorem answer_both_eq_iff (hK : K.Writes) {v : SelectionValues}
    {si : SliceInfoForRegistration} {ps : SliceInfoForPDUSession} (hreg : v.registration = some si)
    (hpdu : v.pduSession = some ps) (features : String) (httpVersion : ℕ) :
    answer K (Http1.runHandlers C cfg v.params) =
        answer K (App.handleSliceInfoForRegistration C cfg si (v.tai.getD {})
          (v.homePlmnId.getD {}) features httpVersion {}) ↔
      RegistrationDecided cfg si (v.tai.getD {}) (v.homePlmnId.getD {}) ∧
        ¬((v.homePlmnId.getD {}).mcc = "" ∧ TaAuthorised cfg (v.tai.getD {}) ∧
          RegistrationServed C cfg si ∧ PduSessionServed C cfg ps) := by
  obtain ⟨r, hr⟩ := exists_registrationDecides C cfg si (v.tai.getD {}) (v.homePlmnId.getD {})
  obtain ⟨w, hw⟩ := exists_pduSessionDecides C cfg ps (v.tai.getD {}) (v.homePlmnId.getD {})
  simp only [Http1.runHandlers, SelectionValues.params, hreg, hpdu, App.registration_eq hr,
    App.pduSession_eq hw]
  refine (answer_registration_eq_iff hK).trans ?_
  rw [hr.decided_iff, ← hr.served_iff, ← hw.served_iff]
  tauto

/-- HTTP/2 answers no decoded query with status 404. -/
theorem notFound_not_sent (C : Common) (K : Codec) (cfg : NssfConfig) (query : Query)
    (r : Http2.SelectionRequest) :
    ∀ response ∈ responses K (Http2.answerSelection C cfg query r),
      response.1 ≠ HttpStatusCode.notFound := by
  have hhandler : ∀ nfType (handle : App.SelectionState → App.SelectionState),
      (handle {}).httpCode ≠ HttpStatusCode.notFound →
        ∀ response ∈ responses K (Http2.selectionHandler nfType handle),
          response.1 ≠ HttpStatusCode.notFound := by
    intro nfType handle hcode response hmem
    rw [responses_selectionHandler] at hmem
    split_ifs at hmem with hnf
    · rw [List.mem_singleton.mp hmem]
      exact hcode
    · rw [List.mem_singleton.mp hmem]
      show (400 : ℤ) ≠ 404
      decide
  cases r with
  | registration si tai home =>
    refine hhandler _ _ ?_
    obtain ⟨v, hv⟩ := exists_registrationDecides C cfg si tai home
    rw [App.registration_eq hv]
    cases v <;> simp [App.selectionExit, RegistrationVerdict.outcome]
  | pduSession si tai home =>
    refine hhandler _ _ ?_
    obtain ⟨v, hv⟩ := exists_pduSessionDecides C cfg si tai home
    rw [App.pduSession_eq hv]
    cases v <;> simp [App.selectionExit, PduSessionVerdict.outcome]
  | neither =>
    intro response hmem
    exact absurd hmem List.not_mem_nil

/-- On a well-formed query the two front ends send the same status and the same body
    exactly when `FrontEndsAgree` holds of its values. -/
theorem front_ends_agree_iff (C : Common) (cfg : NssfConfig) {query : Query}
    {v : SelectionValues} (hK : K.Writes) (hq : WellFormed K query v) :
    responses K (Http1.nsSelectionRoute C K cfg { method := "GET", query := query }) =
        responses K
          (Http2.nsSelectionRoute C K cfg { method := "GET", query := query }).actions ↔
      FrontEndsAgree C cfg v := by
  rw [responses_http2 hq]
  by_cases hcu : v.ueCu = none
  swap
  · refine iff_of_false (fun h => ?_) fun h => hcu h.1
    refine notFound_not_sent C K cfg query v.request
      (HttpStatusCode.notFound, "The requested method does not exist") ?_ rfl
    rw [← h, Http1.nsSelectionRoute, if_pos rfl, Http1.nSSelectionGetHandler,
      hq.decodeQuery_of_ueCu hcu]
    exact List.mem_singleton.mpr rfl
  rw [responses_http1 hq hcu, FrontEndsAgree, and_iff_right hcu]
  have hnfType : Http2.getQueryParam query .nfType = v.nfType := by
    rw [Http2.getQueryParam, hq.nfType]
    rfl
  cases hreg : v.registration with
  | none =>
    cases hpdu : v.pduSession with
    | none =>
      refine iff_of_false (fun h => ?_) fun h => h.2
      simp [SelectionValues.request, hreg, hpdu, Http2.answerSelection,
        Http2.getSliceInfoDefaultHandler, responses] at h
    | some ps =>
      simp only [SelectionValues.request, hreg, hpdu, Http2.answerSelection,
        Http2.getSliceInfoForPduSessionHandler, responses_selectionHandler, hnfType, and_true]
      split_ifs with hnf
      · refine iff_of_true ?_ hnf
        simp only [Http1.runHandlers, SelectionValues.params, hreg, hpdu]
        rfl
      · refine iff_of_false (fun h => ?_) hnf
        exact answer_ne_refusal hK _ (List.singleton_inj.mp h)
  | some si =>
    simp only [SelectionValues.request, hreg, Http2.answerSelection,
      Http2.getSliceInfoForRegistrationHandler, responses_selectionHandler, hnfType]
    by_cases hnf : v.nfType = Http2.nfTypeAmf ∨ v.nfType = Http2.nfTypeNssf
    swap
    · rw [if_neg hnf]
      refine iff_of_false (fun h => ?_) fun h => hnf h.1
      exact answer_ne_refusal hK _ (List.singleton_inj.mp h)
    rw [if_pos hnf, and_iff_right hnf]
    cases hpdu : v.pduSession with
    | none =>
      refine iff_of_true ?_ trivial
      simp only [Http1.runHandlers, SelectionValues.params, hreg, hpdu]
      rfl
    | some ps => exact List.singleton_inj.trans (answer_both_eq_iff hK hreg hpdu _ 2)

/-- A registration query of an NF of this type. -/
def registrationQuery (nfType : String) : Query
  | .nfType => some nfType
  | .nfId => some "nf-1"
  | .sliceInfoRequestForRegistration => some registrationText
  | _ => none

/-- Its values. -/
def registrationValues (nfType : String) : SelectionValues where
  nfType := nfType
  nfId := "nf-1"
  registration := some (registrationFor [⟨222, none⟩] [⟨222, none⟩])

theorem sampleCodec_writes : sampleCodec.Writes where
  problemDetails_ne details := by
    unfold sampleCodec
    dsimp only
    split <;> simp
  nsiInformation a b h := by
    unfold sampleCodec at h
    dsimp only at h
    cases ha : a.nsiInformation.isSome <;> cases hb : b.nsiInformation.isSome
    · rfl
    · exact absurd h (by simp [ha, hb])
    · exact absurd h (by simp [ha, hb])
    · rfl

theorem registrationQuery_wellFormed {nfType : String} (h : nfType ∈ ["AMF", "SMF", "NSSF"]) :
    WellFormed sampleCodec (registrationQuery nfType) (registrationValues nfType) where
  nfType := rfl
  nfType_decodes := ⟨{}, by simp only [sampleCodec, registrationValues, if_pos h]⟩
  nfId := rfl
  nfId_decodes := rfl
  registration := .some ⟨by decide, rfl⟩
  pduSession := .none
  ueCu := .none
  homePlmnId := .none
  tai := .none
  supportedFeatures := .none

/-- Slice information of a session on SST 131 of a UE that does not roam. -/
def pduSessionText : String :=
  "\x7b\"sNssai\":\x7b\"sst\":131\x7d,\"roamingIndication\":\"NON_ROAMING\"\x7d"

/-- The session that it stands for. -/
def samplePduSession : SliceInfoForPDUSession where
  sNssai := ⟨131, none⟩
  roamingIndication := .nonRoaming

/-- A codec that knows this text too. -/
def sessionCodec : Codec where
  __ := sampleCodec
  parseSliceInfoForPDUSession s :=
    if s = pduSessionText then .ok samplePduSession else .error (.json "parse error")

theorem sessionCodec_writes : sessionCodec.Writes where
  problemDetails_ne := sampleCodec_writes.problemDetails_ne
  nsiInformation := sampleCodec_writes.nsiInformation

/-- A query of an AMF for the registration and for the session. -/
def bothQuery : Query
  | .sliceInfoRequestForPduSession => some pduSessionText
  | param => registrationQuery "AMF" param

/-- Its values. -/
def bothValues : SelectionValues where
  __ := registrationValues "AMF"
  pduSession := some samplePduSession

theorem bothQuery_wellFormed : WellFormed sessionCodec bothQuery bothValues where
  nfType := rfl
  nfType_decodes := ⟨{}, rfl⟩
  nfId := rfl
  nfId_decodes := rfl
  registration := .some ⟨by decide, rfl⟩
  pduSession := .some ⟨by decide, rfl⟩
  ueCu := .none
  homePlmnId := .none
  tai := .none
  supportedFeatures := .none

/-- The registration is granted by one of two AMF sets. While there is no instance for the
    session, both send the registration; with one, HTTP/1 sends the instance as well. -/
theorem front_ends_agree_iff_sample :
    let http1 := fun cfg => responses sessionCodec (Http1.nsSelectionRoute sampleCommon sessionCodec
      cfg { method := "GET", query := bothQuery })
    let http2 := fun cfg => responses sessionCodec (Http2.nsSelectionRoute sampleCommon sessionCodec
      cfg { method := "GET", query := bothQuery }).actions
    let served := { twoSetConfig with nsiInfoList := [⟨⟨131, none⟩, { nrfId := "nrf-b" }⟩] }
    http1 twoSetConfig = http2 twoSetConfig ∧ http1 served ≠ http2 served := by
  intro http1 http2 served
  constructor
  · exact (front_ends_agree_iff sampleCommon twoSetConfig sessionCodec_writes
      bothQuery_wellFormed).mpr ⟨rfl, Or.inl rfl, by decide, by decide⟩
  · intro h
    obtain ⟨-, -, -, hnot⟩ := (front_ends_agree_iff sampleCommon served sessionCodec_writes
      bothQuery_wellFormed).mp h
    exact hnot (by decide)

/-- The registration query of an SMF: 403 with the problem details on HTTP/1, 400 without a body
    on HTTP/2. -/
theorem smf_query_differs :
    WellFormed sampleCodec (registrationQuery "SMF") (registrationValues "SMF") ∧
      responses sampleCodec (Http1.nsSelectionRoute sampleCommon sampleCodec {}
          { method := "GET", query := registrationQuery "SMF" }) ≠
        responses sampleCodec (Http2.nsSelectionRoute sampleCommon sampleCodec {}
          { method := "GET", query := registrationQuery "SMF" }).actions :=
  ⟨registrationQuery_wellFormed (by decide), by decide⟩

end OaiNssf
