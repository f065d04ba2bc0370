import OaiNssf.Model.Http1Server
import OaiNssf.Server.Classified

/-!
# The HTTP/1 server over whole runs

Each handler sends one response and leaves the configuration alone, so that the server is a
function from requests to responses, fixed when the configuration is loaded.

* `respond`: the response to a request, without the handlers' actions.
* `http1_run_responds`: a run over the requests of any connections is that function, request
  by request.
-/

namespace OaiNssf

open Callback SliceAvail

/-- The status that an availability PUT leaves: 0 for a set with an empty name, else 204 for
    a configured set and 503 without one. -/
def putStatus (cfg : NssfConfig) (info : NssaiAvailabilityInfo) : ℤ :=
  match info.amfSetId with
  | none => HttpStatusCode.serviceUnavailable
  | some set =>
    if set = "" then 0
    else if amfSets.HasKey cfg.amfInfoList set then HttpStatusCode.noContent
    else HttpStatusCode.serviceUnavailable

/-- What a PUT leaves of the reference parameters: only the status is touched. -/
theorem App.handleCreateNssaiAvailability_eq (nfId : String) (info : NssaiAvailabilityInfo)
    (httpVersion : ℕ) (cfg : NssfConfig) :
    App.handleCreateNssaiAvailability nfId info httpVersion { cfg := cfg } =
      { httpCode := putStatus cfg info, cfg := cfg } := by
  unfold putStatus
  rw [App.handleCreateNssaiAvailability, handleCreate_eq]
  cases info.amfSetId with
  | none => rfl
  | some set =>
    by_cases hset : set = ""
    · simp [hset]
    · by_cases hkey : amfSets.HasKey cfg.amfInfoList set
      · simp [hset, hkey]
      · simp [hset, hkey]

theorem putStatus_ne_ok (cfg : NssfConfig) (info : NssaiAvailabilityInfo) :
    putStatus cfg info ≠ HttpStatusCode.ok := by
  unfold putStatus
  cases info.amfSetId with
  | none => exact show (503 : ℤ) ≠ 200 by decide
  | some set =>
    dsimp only
    split_ifs
    · exact show (0 : ℤ) ≠ 200 by decide
    · exact show (204 : ℤ) ≠ 200 by decide
    · exact show (503 : ℤ) ≠ 200 by decide

namespace Http1

open PathPattern

variable {C : Common} {K : Codec} {L : Libraries} {cfg : NssfConfig}

/-! ## The response to a request -/

section Respond

variable (C K L cfg)

/-- The response when a body does not decode. -/
def parsingReply (e : Exn) : Reply :=
  ⟨(handleParsingException e).1, none, .text (handleParsingException e).2⟩

/-- The response of an operation that is not there. -/
def notImplementedReply : Reply :=
  ⟨HttpStatusCode.serviceUnavailable, none, .text "API NOT IMPLEMENTED\n"⟩

/-- The response when no route is found. -/
def notFoundReply : Reply :=
  ⟨HttpStatusCode.notFound, none, .text "The requested method does not exist"⟩

/-- The response to a decoded NS Selection GET, from what the handlers leave. -/
def selectedReply (p : SelectionParams) : Reply :=
  let st := runHandlers C cfg p
  ⟨st.httpCode,
    some (if st.httpCode = HttpStatusCode.ok then "application/json"
      else "application/problem+json"),
    st.body⟩

/-- The response to an NS Selection GET. -/
def selectionReply (query : Query) : Reply :=
  match decodeQuery K query with
  | .error e => ⟨HttpStatusCode.internalServerError, none, .text e.what⟩
  | .ok none => notFoundReply
  | .ok (some p) =>
    if p.nfType = none then ⟨HttpStatusCode.badRequest, none, .empty⟩ else selectedReply C cfg p

/-- What the body of a PUT decodes to, if it is valid. -/
def decodePut (body : List UInt8) : Except Exn NssaiAvailabilityInfo := do
  let info ← K.parseNssaiAvailabilityInfo body
  K.validateNssaiAvailabilityInfo info
  return info

/-- The response to an availability PUT. -/
def putReply (body : List UInt8) : Reply :=
  match decodePut K body with
  | .error e => parsingReply e
  | .ok info =>
    ⟨putStatus cfg info, some "application/problem+json", .problemDetails {}⟩

/-- The response of a handler that reads a path parameter first. -/
def paramReply (params : Params) (name : String) (reply : Reply) : Reply :=
  match requestParam L params name with
  | .error e => ⟨HttpStatusCode.internalServerError, none, .text e.what⟩
  | .ok _ => reply

/-- The response to a PATCH of an AMF. -/
def patchReply (body : List UInt8) : Reply :=
  match K.parsePatchItems body with
  | .error e => parsingReply e
  | .ok _ => notImplementedReply

/-- The response to a PATCH of a subscription. -/
def subModifyPatchReply (params : Params) (body : List UInt8) : Reply :=
  paramReply L params ":subscriptionId" (patchReply K body)

/-- The response to a POST of a subscription. -/
def postReply (body : List UInt8) : Reply :=
  match L.parseNssfEventSubscriptionCreateData body with
  | .error e => parsingReply e
  | .ok data =>
    match L.validateNssfEventSubscriptionCreateData data with
    | .error e => parsingReply e
    | .ok _ => notImplementedReply

/-- The response of each handler. -/
def Handler.reply (handler : Handler) (params : Params) (r : RawRequest) : Reply :=
  match handler with
  | .nSsaiAvailabilityDelete => paramReply L params ":nfId" notImplementedReply
  | .nSsaiAvailabilityPatch => paramReply L params ":nfId" (patchReply K r.body)
  | .nSsaiAvailabilityPut => paramReply L params ":nfId" (putReply K cfg r.body)
  | .nSsaiAvailabilitySubModifyPatch => subModifyPatchReply K L params r.body
  | .nSsaiAvailabilityUnsubscribe => paramReply L params ":subscriptionId" notImplementedReply
  | .nSsaiAvailabilityPost => postReply L r.body
  | .nSsaiAvailabilityOptions => notImplementedReply
  | .nSSelectionGet => selectionReply C K cfg r.query
  | .nssfSliceConfigGetApis => ⟨HttpStatusCode.ok, some "application/json", .apiList⟩
  | .nssfSliceConfigGet => ⟨HttpStatusCode.serviceUnavailable, some "application/json", .empty⟩
  | .apiDefault => notFoundReply

/-- The response to a request. -/
def respond (find : List (Pattern × Handler) → List String → Option (Handler × Params))
    (P : Paths) (r : RawRequest) : Reply :=
  (dispatch find P r).1.reply C K L cfg (dispatch find P r).2 r

end Respond

/-! ## The handlers -/

/-- The actions consist of this response, completed before anything that follows. -/
def Sends (actions : List Action) (reply : Reply) : Prop :=
  ∀ rest, replies (actions ++ rest) = reply :: replies rest

theorem sends_send (code : ℤ) (contentType : Option String) (body : Body) :
    Sends [.send code contentType body] ⟨code, contentType, body⟩ := fun _ => rfl

theorem sends_nSSelectionGetHandler (query : Query) :
    Sends (nSSelectionGetHandler C K cfg query) (selectionReply C K cfg query) := by
  unfold nSSelectionGetHandler selectionReply
  cases decodeQuery K query with
  | error e => exact sends_send _ _ _
  | ok decoded =>
    cases decoded with
    | none => exact sends_send _ _ _
    | some p =>
      show Sends (nSSelectionGet C cfg p)
        (if p.nfType = none then ⟨HttpStatusCode.badRequest, none, .empty⟩
          else selectedReply C cfg p)
      unfold nSSelectionGet selectedReply App.SelectionState.body
      cases p.nfType with
      | none => exact sends_send _ _ _
      | some nfType =>
        by_cases hok : (runHandlers C cfg p).httpCode = HttpStatusCode.ok
        · simp only [hok, ne_eq, not_true_eq_false, reduceCtorEq, if_true, if_false]
          exact sends_send _ _ _
        · simp only [hok, ne_eq, not_false_eq_true, reduceCtorEq, if_true, if_false]
          exact sends_send _ _ _

/-- A PUT sends its response after the call of `nssf_app` and leaves the configuration. -/
theorem sends_nSsaiAvailabilityPutHandler (nfId : String) (body : List UInt8) :
    (nSsaiAvailabilityPutHandler K cfg nfId body).2 = cfg ∧
      Sends (nSsaiAvailabilityPutHandler K cfg nfId body).1 (putReply K cfg body) := by
  unfold nSsaiAvailabilityPutHandler putReply decodePut
  generalize (do
    let info ← K.parseNssaiAvailabilityInfo body
    K.validateNssaiAvailabilityInfo info
    return info : Except Exn NssaiAvailabilityInfo) = decoded
  cases decoded with
  | error e => exact ⟨rfl, sends_send _ _ _⟩
  | ok info =>
    dsimp only
    rw [nSsaiAvailabilityPut, App.handleCreateNssaiAvailability_eq]
    dsimp only
    rw [if_pos (putStatus_ne_ok cfg info)]
    exact ⟨rfl, fun rest => rfl⟩

theorem sends_nSsaiAvailabilityPatchHandler (body : List UInt8) :
    Sends (nSsaiAvailabilityPatchHandler K body) (patchReply K body) := by
  unfold nSsaiAvailabilityPatchHandler patchReply
  cases K.parsePatchItems body with
  | error e => exact sends_send _ _ _
  | ok items => exact sends_send _ _ _

theorem sends_nSsaiAvailabilitySubModifyPatchHandler (params : Params) (body : List UInt8) :
    Sends (nSsaiAvailabilitySubModifyPatchHandler K L params body)
      (subModifyPatchReply K L params body) := by
  unfold nSsaiAvailabilitySubModifyPatchHandler subModifyPatchReply paramReply patchReply
  cases requestParam L params ":subscriptionId" with
  | error e => exact sends_send _ _ _
  | ok subscriptionId =>
    cases K.parsePatchItems body with
    | error e => exact sends_send _ _ _
    | ok items => exact sends_send _ _ _

theorem sends_nSsaiAvailabilityPostHandler (body : List UInt8) :
    Sends (nSsaiAvailabilityPostHandler L body) (postReply L body) := by
  unfold nSsaiAvailabilityPostHandler postReply
  cases L.parseNssfEventSubscriptionCreateData body with
  | error e => exact sends_send _ _ _
  | ok data =>
    simp only [bind, Except.bind]
    cases L.validateNssfEventSubscriptionCreateData data with
    | error e => exact sends_send _ _ _
    | ok u => exact sends_send _ _ _

/-- A handler that reads a path parameter first sends its own response if the parameter is
    there. -/
theorem withParam_sends {params : Params} {name : String} {reply : Reply}
    {handler : String → List Action × NssfConfig}
    (h : ∀ value, (handler value).2 = cfg ∧ Sends (handler value).1 reply) :
    (withParam L params name cfg handler).2 = cfg ∧
      Sends (withParam L params name cfg handler).1 (paramReply L params name reply) := by
  unfold withParam paramReply
  cases requestParam L params name with
  | error e => exact ⟨rfl, sends_send _ _ _⟩
  | ok value => exact h value

/-- Every handler sends its response and leaves the configuration. -/
theorem Handler.run_sends (handler : Handler) (params : Params) (cfg : NssfConfig)
    (r : RawRequest) :
    (handler.run C K L params cfg r).2 = cfg ∧
      Sends (handler.run C K L params cfg r).1 (handler.reply C K L cfg params r) := by
  cases handler with
  | nSsaiAvailabilityDelete => exact withParam_sends fun _ => ⟨rfl, sends_send _ _ _⟩
  | nSsaiAvailabilityPatch =>
    exact withParam_sends fun _ => ⟨rfl, sends_nSsaiAvailabilityPatchHandler r.body⟩
  | nSsaiAvailabilityPut =>
    exact withParam_sends fun nfId => sends_nSsaiAvailabilityPutHandler nfId r.body
  | nSsaiAvailabilitySubModifyPatch =>
    exact ⟨rfl, sends_nSsaiAvailabilitySubModifyPatchHandler params r.body⟩
  | nSsaiAvailabilityUnsubscribe =>
    refine ⟨rfl, ?_⟩
    simp only [Handler.run, Handler.reply, nSsaiAvailabilityUnsubscribeHandler, paramReply]
    cases requestParam L params ":subscriptionId" with
    | error e => exact sends_send _ _ _
    | ok subscriptionId => exact sends_send _ _ _
  | nSsaiAvailabilityPost => exact ⟨rfl, sends_nSsaiAvailabilityPostHandler r.body⟩
  | nSsaiAvailabilityOptions => exact ⟨rfl, sends_send _ _ _⟩
  | nSSelectionGet => exact ⟨rfl, sends_nSSelectionGetHandler r.query⟩
  | nssfSliceConfigGetApis => exact ⟨rfl, sends_send _ _ _⟩
  | nssfSliceConfigGet => exact ⟨rfl, sends_send _ _ _⟩
  | apiDefault => exact ⟨rfl, sends_send _ _ _⟩

/-! ## The server -/

variable {find : List (Pattern × Handler) → List String → Option (Handler × Params)} {P : Paths}

/-- What the configuration decides about a request. -/
def answer (C : Common) (K : Codec) (L : Libraries)
    (find : List (Pattern × Handler) → List String → Option (Handler × Params)) (P : Paths)
    (cfg : NssfConfig) (r : RawRequest) : Answer Action where
  actions := ((dispatch find P r).1.run C K L (dispatch find P r).2 cfg r).1

theorem server_answers {κ : Type} (cfg : NssfConfig) :
    Answers (onRequest C K L find P) (· = cfg) (tagged fun (_ : κ) => answer C K L find P cfg)
    where
  actions := by
    rintro s rfl ⟨k, r⟩
    rfl
  escaped := by
    rintro s rfl ⟨k, r⟩
    rfl
  keeps := by
    rintro s rfl ⟨k, r⟩
    exact ((dispatch find P r).1.run_sends (dispatch find P r).2 s r).1

variable {κ : Type}

/-- No exception leaves a run: every handler catches what it calls. -/
theorem escaped_serve (cfg : NssfConfig) (requests : List (κ × RawRequest)) :
    (serve C K L find P cfg requests).escaped = false := by
  rw [← Bool.not_eq_true, serve, (server_answers cfg).run_escaped rfl]
  rintro ⟨request, -, h⟩
  cases h

/-- On a connection are sent the responses to its requests. -/
theorem replies_serve [DecidableEq κ] (cfg : NssfConfig) (requests : List (κ × RawRequest))
    (k : κ) :
    replies (ofSession k (serve C K L find P cfg requests).actions) =
      (ofSession k requests).map (respond C K L cfg find P) := by
  have hserver : Answers (onRequest C K L find P) (· = cfg)
      (tagged fun (_ : κ) => answer C K L find P cfg) := server_answers cfg
  have hread : ∀ r rest,
      replies ((answer C K L find P cfg r).actions ++ rest) =
        (some (respond C K L cfg find P r)).toList ++ replies rest :=
    fun r rest => ((dispatch find P r).1.run_sends (dispatch find P r).2 cfg r).2 rest
  have hactions := hserver.run_actions rfl requests
  rw [hserver.handled_of_not_escaped rfl (escaped_serve cfg requests)] at hactions
  rw [serve, hactions, ofSession_flatMap_tagged, read_flatMap rfl hread, List.filterMap_eq_map']

/-- A run of the server, over the requests of any connections in any order, none of them too
    long for Pistache: it ends without an exception and with the configuration it started with,
    and every connection gets one response for each of its requests, in their order, which is
    `respond` of the request and of the configuration loaded at the start. -/
theorem http1_run_responds [DecidableEq κ] (C : Common) (K : Codec) (L : Libraries)
    (find : List (Pattern × Handler) → List String → Option (Handler × Params)) (P : Paths)
    (cfg : NssfConfig) (requests : List (κ × RawRequest)) :
    (serve C K L find P cfg requests).escaped = false ∧
      (serve C K L find P cfg requests).state = cfg ∧
      ∀ k, replies (ofSession k (serve C K L find P cfg requests).actions) =
        (ofSession k requests).map (respond C K L cfg find P) :=
  ⟨escaped_serve cfg requests, (server_answers cfg).run_state rfl requests,
    replies_serve cfg requests⟩

/-- Libraries that decode no subscription. -/
def sampleLibraries : Libraries where
  parseNssfEventSubscriptionCreateData _ := .error (.json "parse error")
  validateNssfEventSubscriptionCreateData _ := .ok ()
  unknownParameter := "unknown parameter"

/-- Paths as the API's documents have them, for version `v1`. -/
def samplePaths : Paths where
  nssfNsSelectionBase := "/nnssf-nsselection/"
  nssfNsSelectionPathNetworSliceInformation := "/network-slice-information"
  nssfNssaiAvailabilityBase := "/nnssf-nssaiavailability/"
  nssfNssaiAvailabilityPathNssaiAvailability := "/nssai-availability/"
  nssfNssaiAvailabilityPathSubscriptions := "/nssai-availability/subscriptions"
  nssfNssaiAvailabilityPathSubscriptionId := "/nssai-availability/subscriptions/:subscriptionId"
  apiVersion := "v1"

end Http1

end OaiNssf
