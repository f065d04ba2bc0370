import OaiNssf.Lib.Gate
import OaiNssf.Model.Http1
import OaiNssf.Model.Http2
import OaiNssf.Server.Status

/-!
# What the two NS Selection routes answer

Both front ends decode the query, run the handlers of `nssf_app` and send what these
leave. The results below say so without the dispatch:

* `Http2.nsSelectionOnData_get`: the HTTP/2 callback decodes the query once and
  answers once;
* `Http1.nSSelectionGet_eq`, `Http2.selectionHandler_of_accepted`: on both servers the
  answer is the status the handlers leave, with the body that goes with it;
* `App.registration_ok_iff`, `App.pduSession_ok_iff`, `Http1.runHandlers_ok_iff`: when
  that status is 200.
-/

namespace OaiNssf

open SliceSelect Callback Decoding

variable {C : Common} {K : Codec} {cfg : NssfConfig} {tai : Tai} {home : PlmnId}

/-! ## Responses in a list of actions -/

/-- The status a server sends with an action. -/
def Action.status : Action → Option ℤ
  | .send code _ _ => some code
  | .writeHead code _ => some code
  | _ => none

/-- The completed responses, each with its status and the text of its body. -/
def responses (K : Codec) : List Action → List (ℤ × String)
  | .send code _ body :: rest => (code, K.content body) :: responses K rest
  | .writeHead code _ :: .endWith body :: rest => (code, K.content body) :: responses K rest
  | _ :: rest => responses K rest
  | [] => []

/-- A response that a handler completes: a `send`, or a `write_head` with its `end`. -/
structure Reply where
  code : ℤ
  contentType : Option String
  body : Body
  deriving DecidableEq, Repr

/-- The responses that are completed, each with its status, its content type and its body. Of
    several on one HTTP/2 stream, nghttp2 sends the first. -/
def replies : List Action → List Reply
  | .send code contentType body :: rest => ⟨code, contentType, body⟩ :: replies rest
  | .writeHead code contentType :: .endWith body :: rest =>
    ⟨code, contentType, body⟩ :: replies rest
  | _ :: rest => replies rest
  | [] => []

namespace App

/-! ## The handlers of `nssf_app` -/

/-- The body both front ends send for the state the handlers leave. -/
def SelectionState.body (st : SelectionState) : Body :=
  if st.httpCode = HttpStatusCode.ok then .authorizedNetworkSliceInfo st.authSliceInfo
  else .problemDetails st.problemDetails

/-- The servers call a handler with a status that is not 200. -/
theorem SelectionState.fresh_ne_ok : ({} : SelectionState).httpCode ≠ HttpStatusCode.ok := by
  decide

theorem registration_eq {si : SliceInfoForRegistration} {v : RegistrationVerdict}
    (hv : RegistrationDecides C cfg si tai home v) (features : String) (httpVersion : ℕ)
    (st : SelectionState) :
    handleSliceInfoForRegistration C cfg si tai home features httpVersion st =
      selectionExit (v.outcome st.httpCode st.authSliceInfo) st.problemDetails := by
  rw [handleSliceInfoForRegistration, hv.handle_eq]

theorem pduSession_eq {si : SliceInfoForPDUSession} {v : PduSessionVerdict}
    (hv : PduSessionDecides C cfg si tai home v) (features : String) (httpVersion : ℕ)
    (st : SelectionState) :
    handleSliceInfoForPduSession C cfg si tai home features httpVersion st =
      selectionExit (v.outcome st.authSliceInfo) st.problemDetails := by
  rw [handleSliceInfoForPduSession, hv.handle_eq]

/-- A registration ends with status 200 when it is granted, or when it leaves the 200
    it was called with. -/
theorem registration_ok_iff (si : SliceInfoForRegistration) (features : String)
    (httpVersion : ℕ) (st : SelectionState) :
    (handleSliceInfoForRegistration C cfg si tai home features httpVersion st).httpCode =
        HttpStatusCode.ok ↔
      (home.mcc = "" ∧ TaAuthorised cfg tai ∧ RegistrationServed C cfg si) ∨
      (st.httpCode = HttpStatusCode.ok ∧ ¬RegistrationDecided cfg si tai home) := by
  obtain ⟨v, hv⟩ := exists_registrationDecides C cfg si tai home
  rw [registration_eq hv, hv.served_iff, hv.decided_iff, not_not]
  cases v <;>
    simp [selectionExit, RegistrationVerdict.outcome, RegistrationVerdict.LeavesCode]

/-- A PDU-session selection ends with status 200 when it is granted. -/
theorem pduSession_ok_iff (si : SliceInfoForPDUSession) (features : String)
    (httpVersion : ℕ) (st : SelectionState) :
    (handleSliceInfoForPduSession C cfg si tai home features httpVersion st).httpCode =
        HttpStatusCode.ok ↔
      home.mcc = "" ∧ TaAuthorised cfg tai ∧ PduSessionServed C cfg si := by
  obtain ⟨v, hv⟩ := exists_pduSessionDecides C cfg si tai home
  rw [pduSession_eq hv, hv.served_iff]
  cases v <;> simp [selectionExit, PduSessionVerdict.outcome]

end App

/-! ## HTTP/1 -/

namespace Http1

/-- The slice information decoded from a query is granted once the TAI and the home
    PLMN are accepted. A registration that leaves the status alone passes on what the
    PDU-session handler granted before it. -/
def SlicesServed (C : Common) (cfg : NssfConfig) (registration : Option SliceInfoForRegistration)
    (pduSession : Option SliceInfoForPDUSession) : Prop :=
  (∃ si, registration = some si ∧ RegistrationServed C cfg si) ∨
    (∃ si, pduSession = some si ∧ PduSessionServed C cfg si) ∧
      ∀ si, registration = some si → RegistrationUnanswered si

/-- The query decodes when every parameter does and there is no UE configuration
    update. -/
theorem decodeQuery_eq_some_iff {query : Query} {p : SelectionParams} :
    decodeQuery K query = .ok (some p) ↔
      decodeParam (query .nfType) K.nfTypeFromStringValue = .ok p.nfType ∧
      decodeParam (query .nfId) K.stringFromStringValue = .ok p.nfId ∧
      decodeParam (query .sliceInfoRequestForRegistration)
        (fromStringValueHelper K.parseSliceInfoForRegistration) =
          .ok p.sliceInfoRequestForRegistration ∧
      decodeParam (query .sliceInfoRequestForPduSession)
        (fromStringValueHelper K.parseSliceInfoForPDUSession) =
          .ok p.sliceInfoRequestForPduSession ∧
      query .sliceInfoRequestForUeCu = none ∧
      decodeParam (query .homePlmnId) K.plmnIdFromStringValue = .ok p.homePlmnId ∧
      decodeParam (query .tai) K.taiFromStringValue = .ok p.tai ∧
      decodeParam (query .supportedFeatures) K.stringFromStringValue =
        .ok p.supportedFeatures := by
  unfold decodeQuery
  simp only [bind_eq_ok_iff]
  constructor
  · rintro ⟨nfType, h1, nfId, h2, reg, h3, pdu, h4, h⟩
    cases hcu : query .sliceInfoRequestForUeCu with
    | some value =>
      simp only [hcu, bind_eq_ok_iff] at h
      obtain ⟨_, -, h⟩ := h
      cases h
    | none =>
      simp only [hcu, bind_eq_ok_iff] at h
      obtain ⟨home, h5, tai, h6, features, h7, h⟩ := h
      cases h
      exact ⟨h1, h2, h3, h4, rfl, h5, h6, h7⟩
  · rintro ⟨h1, h2, h3, h4, hcu, h5, h6, h7⟩
    refine ⟨_, h1, _, h2, _, h3, _, h4, ?_⟩
    simp only [hcu, bind_eq_ok_iff]
    exact ⟨_, h5, _, h6, _, h7, rfl⟩

/-- The answer to a decoded GET. Only a status other than 200 is sent as a problem. -/
theorem nSSelectionGet_eq (C : Common) (cfg : NssfConfig) {p : SelectionParams} {nfType : NFType}
    (h : p.nfType = some nfType) :
    ∃ contentType,
      ((runHandlers C cfg p).httpCode = HttpStatusCode.ok →
        contentType ≠ some "application/problem+json") ∧
      nSSelectionGet C cfg p =
        [.send (runHandlers C cfg p).httpCode contentType (runHandlers C cfg p).body] := by
  rw [nSSelectionGet, h]
  by_cases hok : (runHandlers C cfg p).httpCode = HttpStatusCode.ok
  · refine ⟨some "application/json", fun _ => by decide, ?_⟩
    simp [App.SelectionState.body, hok]
  · refine ⟨some "application/problem+json", fun h => absurd h hok, ?_⟩
    simp [App.SelectionState.body, hok]

/-- The handlers leave status 200 when the home PLMN and the TAI are accepted and the
    slices are served. -/
theorem runHandlers_ok_iff (p : SelectionParams) :
    (runHandlers C cfg p).httpCode = HttpStatusCode.ok ↔
      (p.homePlmnId.getD {}).mcc = "" ∧ TaAuthorised cfg (p.tai.getD {}) ∧
        SlicesServed C cfg p.sliceInfoRequestForRegistration p.sliceInfoRequestForPduSession := by
  unfold runHandlers SlicesServed
  cases hpdu : p.sliceInfoRequestForPduSession with
  | none =>
    cases hreg : p.sliceInfoRequestForRegistration with
    | none => simp
    | some si => simp [App.registration_ok_iff]
  | some ps =>
    cases hreg : p.sliceInfoRequestForRegistration with
    | none => simp [App.pduSession_ok_iff]
    | some si =>
      simp only [App.registration_ok_iff, App.pduSession_ok_iff, Option.some.injEq,
        exists_eq_left', forall_eq']
      constructor
      · rintro (⟨hhome, hta, hserved⟩ | ⟨⟨hhome, hta, hserved⟩, hnot⟩)
        · exact ⟨hhome, hta, Or.inl hserved⟩
        · exact ⟨hhome, hta, Or.inr ⟨hserved, (not_decided_iff hhome hta).mp hnot⟩⟩
      · rintro ⟨hhome, hta, hserved | ⟨hserved, hun⟩⟩
        · exact Or.inl ⟨hhome, hta, hserved⟩
        · exact Or.inr ⟨⟨hhome, hta, hserved⟩, (not_decided_iff hhome hta).mpr hun⟩

end Http1

/-! ## HTTP/2 -/

namespace Http2

/-- What the HTTP/2 block decodes from a query before it answers. -/
inductive SelectionRequest where
  | registration (sliceInfo : SliceInfoForRegistration) (tai : Tai) (home : PlmnId)
  | pduSession (sliceInfo : SliceInfoForPDUSession) (tai : Tai) (home : PlmnId)
  | neither

/-- The decoding: the home PLMN, the TAI, then the first slice information given. -/
def decodeSelection (K : Codec) (query : Query) : Except Exn SelectionRequest := do
  let home ← parseOptional K.parsePlmnId {} (getQueryParam query .homePlmnId)
  let tai ← parseOptional K.parseTai {} (getQueryParam query .tai)
  let registration := getQueryParam query .sliceInfoRequestForRegistration
  let pduSession := getQueryParam query .sliceInfoRequestForPduSession
  if registration ≠ "" then
    return .registration (← K.parseSliceInfoForRegistration (cStr registration)) tai home
  else if pduSession ≠ "" then
    return .pduSession (← K.parseSliceInfoForPDUSession (cStr pduSession)) tai home
  else return .neither

/-- The decoding succeeds when the parameters it comes to do. -/
theorem decodeSelection_eq_ok_iff {query : Query} {r : SelectionRequest} :
    decodeSelection K query = .ok r ↔
      ∃ home tai, parseOptional K.parsePlmnId {} (getQueryParam query .homePlmnId) = .ok home ∧
        parseOptional K.parseTai {} (getQueryParam query .tai) = .ok tai ∧
        let registration := getQueryParam query .sliceInfoRequestForRegistration
        let pduSession := getQueryParam query .sliceInfoRequestForPduSession
        (registration ≠ "" ∧ ∃ si, K.parseSliceInfoForRegistration (cStr registration) = .ok si ∧
            .registration si tai home = r) ∨
          (registration = "" ∧ pduSession ≠ "" ∧
            ∃ si, K.parseSliceInfoForPDUSession (cStr pduSession) = .ok si ∧
              .pduSession si tai home = r) ∨
          (registration = "" ∧ pduSession = "" ∧ .neither = r) := by
  unfold decodeSelection
  simp only [bind_eq_ok_iff, ← exists_and_left]
  refine exists_congr fun home => exists_congr fun tai => ?_
  refine and_congr_right fun _ => and_congr_right fun _ => ?_
  by_cases hreg : getQueryParam query .sliceInfoRequestForRegistration = ""
  · by_cases hpdu : getQueryParam query .sliceInfoRequestForPduSession = ""
    · simp [hreg, hpdu, pure, Except.pure]
    · simp [hreg, hpdu, bind_eq_ok_iff, pure, Except.pure]
  · simp [hreg, bind_eq_ok_iff, pure, Except.pure]

/-- The answer to a decoded query. -/
def answerSelection (C : Common) (cfg : NssfConfig) (query : Query) :
    SelectionRequest → List Action
  | .registration sliceInfo tai home =>
    getSliceInfoForRegistrationHandler C cfg (getQueryParam query .nfType)
      (getQueryParam query .nfId) sliceInfo tai home (getQueryParam query .supportedFeatures)
  | .pduSession sliceInfo tai home =>
    getSliceInfoForPduSessionHandler C cfg (getQueryParam query .nfType)
      (getQueryParam query .nfId) sliceInfo tai home (getQueryParam query .supportedFeatures)
  | .neither => getSliceInfoDefaultHandler

/-- The block decodes and answers. The branch for the UE configuration update is never
    taken, since it tests the parameter that the first branch has found empty. -/
theorem nsSelectionGet_eq (C : Common) (K : Codec) (cfg : NssfConfig) (query : Query) :
    nsSelectionGet C K cfg query =
      (decodeSelection K query).map (answerSelection C cfg query) := by
  unfold nsSelectionGet decodeSelection
  cases parseOptional K.parsePlmnId {} (getQueryParam query .homePlmnId) with
  | error e => rfl
  | ok home =>
    cases parseOptional K.parseTai {} (getQueryParam query .tai) with
    | error e => rfl
    | ok tai =>
      simp only [bind, Except.bind]
      split_ifs with hreg hpdu
      · cases K.parseSliceInfoForRegistration
          (cStr (getQueryParam query .sliceInfoRequestForRegistration)) <;> rfl
      · cases K.parseSliceInfoForPDUSession
          (cStr (getQueryParam query .sliceInfoRequestForPduSession)) <;> rfl
      · rfl

theorem catchJson_state {block : Except Exn (List Action × NssfConfig)}
    (h : ∀ r, block = .ok r → r.2 = cfg) : (catchJson cfg block).state = cfg := by
  cases block with
  | ok r => exact h r rfl
  | error e => cases e <;> rfl

/-- A call of the NS Selection callback leaves the configuration as it was. -/
theorem nsSelectionOnData_state (C : Common) (K : Codec) (method : String) (query : Query)
    (cfg : NssfConfig) (data : List UInt8) :
    (nsSelectionOnData C K method query cfg data).state = cfg := by
  refine catchJson_state fun r hr => ?_
  split_ifs at hr
  · obtain ⟨_, -, rfl⟩ := map_eq_ok_iff.mp hr
    rfl
  · cases hr
    rfl

/-- A call of the callback for a GET: the answer, or what the handler of the block
    does. -/
theorem nsSelectionOnData_get (C : Common) (K : Codec) (cfg : NssfConfig) (query : Query)
    (data : List UInt8) :
    nsSelectionOnData C K "GET" query cfg data =
      catchJson cfg
        ((decodeSelection K query).map fun r => (answerSelection C cfg query r, cfg)) := by
  rw [nsSelectionOnData, if_pos rfl, nsSelectionGet_eq]
  cases decodeSelection K query <;> rfl

theorem selectionHandler_of_accepted {nfType : String}
    (h : nfType = nfTypeAmf ∨ nfType = nfTypeNssf)
    (handle : App.SelectionState → App.SelectionState) :
    selectionHandler nfType handle =
      [.writeHead (handle {}).httpCode (some "application/json"), .endWith (handle {}).body] := by
  rw [selectionHandler, if_pos h, App.SelectionState.body]
  by_cases hok : (handle {}).httpCode = HttpStatusCode.ok
  · simp [hok]
  · simp [hok]

theorem selectionHandler_of_refused {nfType : String}
    (h : ¬(nfType = nfTypeAmf ∨ nfType = nfTypeNssf))
    (handle : App.SelectionState → App.SelectionState) :
    selectionHandler nfType handle =
      [.writeHead HttpStatusCode.badRequest (some "application/json"), .endWith .empty] := by
  rw [selectionHandler, if_neg h]

end Http2

/-! ## A codec for the instances -/

/-- Slice information of a registration: SST 222 is requested and subscribed. -/
def registrationText : String :=
  "\x7b\"requestedNssai\":[\x7b\"sst\":222\x7d],\"subscribedNssai\":" ++
    "[\x7b\"subscribedSnssai\":\x7b\"sst\":222\x7d\x7d]\x7d"

/-- A TAI with an empty TAC. -/
def emptyTacText : String :=
  "\x7b\"plmnId\":\x7b\"mcc\":\"001\",\"mnc\":\"01\"\x7d,\"tac\":\"\"\x7d"

/-- An availability document that names `set-1` and supports nothing. -/
def availabilityText : String :=
  "\x7b\"supportedNssaiAvailabilityData\":[],\"amfSetId\":\"set-1\"\x7d"

/-- The bytes of an ASCII text. -/
def asciiBytes (s : String) : List UInt8 := s.toList.map fun c => UInt8.ofNat c.toNat

/-- A codec that knows the texts above, with the exception nlohmann's parser throws on
    an empty text for all others. -/
def sampleCodec : Codec where
  nfTypeFromStringValue s := .ok (if s ∈ ["AMF", "SMF", "NSSF"] then some {} else none)
  stringFromStringValue s := .ok (some s)
  plmnIdFromStringValue _ := .ok none
  taiFromStringValue s := .ok (if s = emptyTacText then some { plmnId := ⟨"001", "01"⟩ } else none)
  parsePlmnId _ := .error (.json "parse error")
  parseTai s :=
    if s = emptyTacText then .ok { plmnId := ⟨"001", "01"⟩ } else .error (.json "parse error")
  parseSliceInfoForRegistration s :=
    if s = registrationText then
      .ok { requestedNssai := some [⟨222, none⟩], subscribedNssai := some [⟨⟨222, none⟩⟩] }
    else .error (.json "parse error")
  parseSliceInfoForPDUSession _ := .error (.json "parse error")
  parseSliceInfoForUEConfigurationUpdate _ := .error (.json "parse error")
  parseNssaiAvailabilityInfo bytes :=
    if bytes = asciiBytes availabilityText then .ok { amfSetId := some "set-1" }
    else .error (.json "parse error")
  parsePatchItems _ := .error (.json "parse error")
  validateNssaiAvailabilityInfo _ := .ok ()
  dumpAuthorizedNetworkSliceInfo info :=
    if info.nsiInformation.isSome then "\x7b\"nsiInformation\":\x7b\"nrfId\":\"\"\x7d\x7d"
    else "null"
  dumpAuthorizedNssaiAvailabilityInfo _ := "null"
  dumpProblemDetails details :=
    match details.cause with
    | some _ =>
      "\x7b\"cause\":\"SNSSAI_NOT_SUPPORTED\"," ++
        "\"detail\":\"S-NSSAI in Requested NSSAI is not supported in PLMN\"," ++
        "\"status\":403,\"title\":\"UNSUPPORTED_RESOURCE\"\x7d"
    | none => "null"
  dumpApiList := "\x7b\x7d"

end OaiNssf
