import OaiNssf.Lib.PathPattern
import OaiNssf.Lib.Sessions
import OaiNssf.Model.Http1

/-!
# Model of the HTTP/1 server as a whole

`NSSFApiServer::init` lets six API classes register their routes with one Pistache router.
Each class but the last also adds its default handler as a custom handler; all of these send
the same response, and Pistache runs the first when no route of the method matches.

A request whose body is longer than `PISTACHE_SERVER_MAX_PAYLOAD` is answered 413 by Pistache and
reaches no handler; the requests of this model are the others.

Paths are put together from constants of `sbi_helper` and the configured API version, the
fields of a `Paths`. Pistache's router is the parameter `find`; what is relied on is
`PathPattern.IsRouter`.
-/

namespace OaiNssf

namespace Http1

open PathPattern Callback

variable (C : Common) (K : Codec)

/-- `NssfEventSubscriptionCreateData`; the server only asks whether it decodes and is
    valid. -/
structure NssfEventSubscriptionCreateData where
  deriving DecidableEq, Repr

/-- What only this server uses of the libraries. -/
structure Libraries where
  parseNssfEventSubscriptionCreateData :
    List UInt8 → Except Exn NssfEventSubscriptionCreateData
  validateNssfEventSubscriptionCreateData : NssfEventSubscriptionCreateData → Except Exn Unit
  /-- What Pistache's `request.param` throws for a name that the pattern does not have. -/
  unknownParameter : String

variable (L : Libraries)

/-! ## Subscription ID (Document), Subscriptions (Collection), NSSAI Availability Store -/

/-- `request.param(name)`. -/
def requestParam (params : Params) (name : String) : Except Exn String :=
  match params.lookup name with
  | some value => .ok value
  | none => .error (.other L.unknownParameter)

/-- A handler that reads a path parameter first, under the `try` around all of it, and does not
    throw otherwise. -/
def withParam (params : Params) (name : String) (cfg : NssfConfig)
    (handler : String → List Action × NssfConfig) : List Action × NssfConfig :=
  match requestParam L params name with
  | .error e => ([.send HttpStatusCode.internalServerError none (.text e.what)], cfg)
  | .ok value => handler value

/-- `n_ssai_availability_sub_modify_patch_handler` (`SubscriptionIDDocumentApi.cpp` lines
    85–124), with the operation of `SubscriptionIDDocumentApiImpl.cpp` lines 32–38. -/
def nSsaiAvailabilitySubModifyPatchHandler (params : Params) (body : List UInt8) : List Action :=
  match requestParam L params ":subscriptionId" with
  | .error e => [.send HttpStatusCode.internalServerError none (.text e.what)]
  | .ok _ =>
    match K.parsePatchItems body with
    | .error e =>
      let errorInfo := handleParsingException e
      [.send errorInfo.1 none (.text errorInfo.2)]
    | .ok _ => apiNotImplemented

/-- `n_ssai_availability_unsubscribe_handler` (lines 125–147), with the operation of lines
    39–44. -/
def nSsaiAvailabilityUnsubscribeHandler (params : Params) : List Action :=
  match requestParam L params ":subscriptionId" with
  | .error e => [.send HttpStatusCode.internalServerError none (.text e.what)]
  | .ok _ => apiNotImplemented

/-- `n_ssai_availability_post_handler` (`SubscriptionsCollectionApi.cpp` lines 79–117), with
    the operation of `SubscriptionsCollectionApiImpl.cpp` lines 38–44. -/
def nSsaiAvailabilityPostHandler (body : List UInt8) : List Action :=
  let decoded := do
    let nssfEventSubscriptionCreateData ← L.parseNssfEventSubscriptionCreateData body
    L.validateNssfEventSubscriptionCreateData nssfEventSubscriptionCreateData
  match decoded with
  | .error e =>
    let errorInfo := handleParsingException e
    [.send errorInfo.1 none (.text errorInfo.2)]
  | .ok _ => apiNotImplemented

/-- `n_ssai_availability_options_handler` (`NSSAIAvailabilityStoreApi.cpp` lines 79–97), with
    the operation of `NSSAIAvailabilityStoreApiImpl.cpp` lines 31–35. -/
def nSsaiAvailabilityOptionsHandler : List Action := apiNotImplemented

/-! ## Routes -/

/-- The handlers that are registered, and the default handler. -/
inductive Handler where
  | nSsaiAvailabilityDelete
  | nSsaiAvailabilityPatch
  | nSsaiAvailabilityPut
  | nSsaiAvailabilitySubModifyPatch
  | nSsaiAvailabilityUnsubscribe
  | nSsaiAvailabilityPost
  | nSsaiAvailabilityOptions
  | nSSelectionGet
  | nssfSliceConfigGetApis
  | nssfSliceConfigGet
  | apiDefault
  deriving DecidableEq, Repr

/-- A call of one of the functions `Routes::Get`, `Routes::Put`, …. -/
structure Route where
  method : String
  resource : String
  handler : Handler

/-- The routes of the six `setupRoutes`, in the order of `NSSFApiServer::init`
    (`nssf-api-server.cpp` lines 60–68). The path of `Routes::Delete` in
    `SubscriptionIDDocumentApi.cpp` (lines 52–56) has no API version. -/
def routes (P : Paths) : List Route :=
  let availability := P.nssfNssaiAvailabilityBase ++ P.apiVersion
  [ ⟨"DELETE", availability ++ "/nssai-availability/:nfId", .nSsaiAvailabilityDelete⟩,
    ⟨"PATCH", availability ++ "/nssai-availability/:nfId", .nSsaiAvailabilityPatch⟩,
    ⟨"PUT", availability ++ "/nssai-availability/:nfId", .nSsaiAvailabilityPut⟩,
    ⟨"PATCH", availability ++ P.nssfNssaiAvailabilityPathSubscriptionId,
      .nSsaiAvailabilitySubModifyPatch⟩,
    ⟨"DELETE", P.nssfNssaiAvailabilityBase ++ P.nssfNssaiAvailabilityPathSubscriptionId,
      .nSsaiAvailabilityUnsubscribe⟩,
    ⟨"POST", availability ++ P.nssfNssaiAvailabilityPathSubscriptions, .nSsaiAvailabilityPost⟩,
    ⟨"OPTIONS", availability ++ "/nssai-availability", .nSsaiAvailabilityOptions⟩,
    ⟨"GET", P.nssfNsSelectionBase ++ P.apiVersion ++
      P.nssfNsSelectionPathNetworSliceInformation, .nSSelectionGet⟩,
    ⟨"GET", "/", .nssfSliceConfigGetApis⟩,
    ⟨"GET", "/" ++ "nnssf-slice-config", .nssfSliceConfigGet⟩ ]

/-- The router's table for a method. -/
def routeTable (P : Paths) (method : String) : List (Pattern × Handler) :=
  ((routes P).filter fun route => route.method = method).map fun route =>
    (pattern route.resource, route.handler)

/-- A request as it comes in, with the path as it was sent. -/
structure RawRequest where
  method : String
  resource : String
  query : Query := fun _ => none
  body : List UInt8 := []

/-- Pistache's `Router::route`: a route of the method, else the first custom handler. -/
def dispatch (find : List (Pattern × Handler) → List String → Option (Handler × Params))
    (P : Paths) (r : RawRequest) : Handler × Params :=
  (find (routeTable P r.method) (segments r.resource)).getD (.apiDefault, [])

/-- The run of a handler on a request, with the configuration it leaves. The handlers of
    `NFInstanceIDDocumentApi.cpp` read `:nfId` first (lines 95, 118 and 159). -/
def Handler.run (handler : Handler) (params : Params) (cfg : NssfConfig) (r : RawRequest) :
    List Action × NssfConfig :=
  match handler with
  | .nSsaiAvailabilityDelete =>
    withParam L params ":nfId" cfg fun _ => (nSsaiAvailabilityDeleteHandler, cfg)
  | .nSsaiAvailabilityPatch =>
    withParam L params ":nfId" cfg fun _ => (nSsaiAvailabilityPatchHandler K r.body, cfg)
  | .nSsaiAvailabilityPut =>
    withParam L params ":nfId" cfg fun nfId => nSsaiAvailabilityPutHandler K cfg nfId r.body
  | .nSsaiAvailabilitySubModifyPatch =>
    (nSsaiAvailabilitySubModifyPatchHandler K L params r.body, cfg)
  | .nSsaiAvailabilityUnsubscribe => (nSsaiAvailabilityUnsubscribeHandler L params, cfg)
  | .nSsaiAvailabilityPost => (nSsaiAvailabilityPostHandler L r.body, cfg)
  | .nSsaiAvailabilityOptions => (nSsaiAvailabilityOptionsHandler, cfg)
  | .nSSelectionGet => (nSSelectionGetHandler C K cfg r.query, cfg)
  | .nssfSliceConfigGetApis => (Http1.nssfSliceConfigGetApis, cfg)
  | .nssfSliceConfigGet => (Http1.nssfSliceConfigGet, cfg)
  | .apiDefault => (apiDefaultHandler, cfg)

/-! ## The server -/

variable (find : List (Pattern × Handler) → List String → Option (Handler × Params)) (P : Paths)

/-- The handling of a request on one of the open connections. -/
def onRequest {κ : Type} (cfg : NssfConfig) (request : κ × RawRequest) :
    Outcome NssfConfig (κ × Action) :=
  let (handler, params) := dispatch find P request.2
  let (actions, cfg) := handler.run C K L params cfg request.2
  { state := cfg, actions := actions.map (Prod.mk request.1) }

/-- The server on the requests of all connections, in the order in which they are handled. -/
def serve {κ : Type} (cfg : NssfConfig) (requests : List (κ × RawRequest)) :
    Outcome NssfConfig (κ × Action) :=
  run (onRequest C K L find P) cfg requests

end Http1

end OaiNssf
