import OaiNssf.Model.Sbi

/-!
# Model of the HTTP/1 server

The Pistache handlers of `api-server/api` and `api-server/impl`, each as the list
of its actions. Pistache's router runs the handler registered for the method, and
otherwise the first custom handler, which is the default handler of
`NFInstanceIDDocumentApi`; all default handlers have the same body.

A handler's `try` block is an `Except Exn`. What the block of a parsing handler
encloses after decoding (the call of the operation) throws nothing.
-/

namespace OaiNssf.Http1

variable (C : Common) (K : Codec)

/-- A request on one of the routes. `nfId` is the path parameter `:nfId` of the
    availability route. -/
structure Request where
  method : String
  nfId : String := ""
  query : Query := fun _ => none
  body : List UInt8 := []

/-- `…_api_default_handler`. -/
def apiDefaultHandler : List Action :=
  [.send HttpStatusCode.notFound none (.text "The requested method does not exist")]

/-- `handleParsingException`. -/
def handleParsingException (e : Exn) : ℤ × String :=
  match e with
  | .json what => (HttpStatusCode.badRequest, what)
  | .other what => (HttpStatusCode.internalServerError, what)

/-! ## Network Slice Information (Document) -/

/-- The arguments of `n_s_selection_get`. -/
structure SelectionParams where
  nfType : Option NFType
  nfId : Option String
  sliceInfoRequestForRegistration : Option SliceInfoForRegistration
  sliceInfoRequestForPduSession : Option SliceInfoForPDUSession
  homePlmnId : Option PlmnId
  tai : Option Tai
  supportedFeatures : Option String

/-- One `…Query.has_value()` block of `n_s_selection_get_handler`. -/
def decodeParam {α : Type} (query : Option String)
    (fromStringValue : String → Except Exn (Option α)) : Except Exn (Option α) :=
  match query with
  | none => .ok none
  | some value => fromStringValue value

/-- `fromStringValueHelper` (`NetworkSliceInformationDocumentApi.cpp` lines 192–217),
    for the three types: it parses the C string and returns `true`. -/
def fromStringValueHelper {α : Type} (parse : String → Except Exn α) (inStr : String) :
    Except Exn (Option α) :=
  (parse (cStr inStr)).map some

/-- The decoding of the query in `n_s_selection_get_handler` (lines 84–163). The
    result `none` is the `return` in the block of `slice-info-request-for-ue-cu`. -/
def decodeQuery (query : Query) : Except Exn (Option SelectionParams) := do
  let nfType ← decodeParam (query .nfType) K.nfTypeFromStringValue
  let nfId ← decodeParam (query .nfId) K.stringFromStringValue
  let registration ← decodeParam (query .sliceInfoRequestForRegistration)
    (fromStringValueHelper K.parseSliceInfoForRegistration)
  let pduSession ← decodeParam (query .sliceInfoRequestForPduSession)
    (fromStringValueHelper K.parseSliceInfoForPDUSession)
  match query .sliceInfoRequestForUeCu with
  | some value =>
    let _ ← fromStringValueHelper K.parseSliceInfoForUEConfigurationUpdate value
    return none
  | none =>
    let homePlmnId ← decodeParam (query .homePlmnId) K.plmnIdFromStringValue
    let tai ← decodeParam (query .tai) K.taiFromStringValue
    let supportedFeatures ← decodeParam (query .supportedFeatures) K.stringFromStringValue
    return some
      { nfType := nfType
        nfId := nfId
        sliceInfoRequestForRegistration := registration
        sliceInfoRequestForPduSession := pduSession
        homePlmnId := homePlmnId
        tai := tai
        supportedFeatures := supportedFeatures }

/-- The two handler calls of `n_s_selection_get` (lines 95–116), on the reference
    parameters they share. -/
def runHandlers (cfg : NssfConfig) (p : SelectionParams) : App.SelectionState :=
  let tai := p.tai.getD {}
  let homePlmnId := p.homePlmnId.getD {}
  let supportedFeatures := p.supportedFeatures.getD ""
  let st : App.SelectionState := {}
  let st :=
    match p.sliceInfoRequestForPduSession with
    | some sliceInfo =>
      App.handleSliceInfoForPduSession C cfg sliceInfo tai homePlmnId supportedFeatures 1 st
    | none => st
  match p.sliceInfoRequestForRegistration with
  | some sliceInfo =>
    App.handleSliceInfoForRegistration C cfg sliceInfo tai homePlmnId supportedFeatures 1 st
  | none => st

/-- `n_s_selection_get` (`NetworkSliceInformationDocumentApiImpl.cpp` lines 41–133). -/
def nSSelectionGet (cfg : NssfConfig) (p : SelectionParams) : List Action :=
  match p.nfType with
  | none => [.send HttpStatusCode.badRequest none .empty]
  | some _ =>
    let st := runHandlers C cfg p
    if st.httpCode ≠ HttpStatusCode.ok then
      [.send st.httpCode (some "application/problem+json") (.problemDetails st.problemDetails)]
    else
      [.send st.httpCode (some "application/json") (.authorizedNetworkSliceInfo st.authSliceInfo)]

/-- `n_s_selection_get_handler` (lines 80–182). -/
def nSSelectionGetHandler (cfg : NssfConfig) (query : Query) : List Action :=
  match decodeQuery K query with
  | .error e => [.send HttpStatusCode.internalServerError none (.text e.what)]
  | .ok none =>
    [.send HttpStatusCode.notFound none (.text "The requested method does not exist")]
  | .ok (some p) => nSSelectionGet C cfg p

/-- The NS Selection route. -/
def nsSelectionRoute (cfg : NssfConfig) (r : Request) : List Action :=
  if r.method = "GET" then nSSelectionGetHandler C K cfg r.query else apiDefaultHandler

/-! ## NF Instance ID (Document) -/

/-- `n_ssai_availability_delete`, and `n_ssai_availability_patch`, which has the same
    body (`NFInstanceIDDocumentApiImpl.cpp` lines 32–44). -/
def apiNotImplemented : List Action :=
  [.send HttpStatusCode.serviceUnavailable none (.text "API NOT IMPLEMENTED\n")]

/-- `n_ssai_availability_put` (lines 45–80), with the configuration it leaves. -/
def nSsaiAvailabilityPut (cfg : NssfConfig) (nfId : String)
    (nssaiAvailabilityInfo : NssaiAvailabilityInfo) : List Action × NssfConfig :=
  let st := App.handleCreateNssaiAvailability nfId nssaiAvailabilityInfo 1 { cfg := cfg }
  let call := Action.createNssaiAvailability nfId nssaiAvailabilityInfo
  if st.httpCode ≠ HttpStatusCode.ok then
    ([call, .send st.httpCode (some "application/problem+json")
      (.problemDetails st.problemDetails)], st.cfg)
  else
    ([call, .send st.httpCode (some "application/json")
      (.authorizedNssaiAvailabilityInfo st.authInfo)], st.cfg)

/-- `n_ssai_availability_delete_handler` (`NFInstanceIDDocumentApi.cpp` lines 90–112). -/
def nSsaiAvailabilityDeleteHandler : List Action := apiNotImplemented

/-- `n_ssai_availability_patch_handler` (lines 113–153). -/
def nSsaiAvailabilityPatchHandler (body : List UInt8) : List Action :=
  match K.parsePatchItems body with
  | .error e =>
    let errorInfo := handleParsingException e
    [.send errorInfo.1 none (.text errorInfo.2)]
  | .ok _ => apiNotImplemented

/-- `n_ssai_availability_put_handler` (lines 154–196). -/
def nSsaiAvailabilityPutHandler (cfg : NssfConfig) (nfId : String) (body : List UInt8) :
    List Action × NssfConfig :=
  let decoded := do
    let nssaiAvailabilityInfo ← K.parseNssaiAvailabilityInfo body
    K.validateNssaiAvailabilityInfo nssaiAvailabilityInfo
    return nssaiAvailabilityInfo
  match decoded with
  | .error e =>
    let errorInfo := handleParsingException e
    ([.send errorInfo.1 none (.text errorInfo.2)], cfg)
  | .ok nssaiAvailabilityInfo => nSsaiAvailabilityPut cfg nfId nssaiAvailabilityInfo

/-- The NSSAI-availability route. -/
def nssaiAvailabilityRoute (cfg : NssfConfig) (r : Request) : List Action × NssfConfig :=
  if r.method = "DELETE" then (nSsaiAvailabilityDeleteHandler, cfg)
  else if r.method = "PATCH" then (nSsaiAvailabilityPatchHandler K r.body, cfg)
  else if r.method = "PUT" then nSsaiAvailabilityPutHandler K cfg r.nfId r.body
  else (apiDefaultHandler, cfg)

/-! ## Custom APIs -/

/-- `nssf_slice_config_get` (`NssfSliceConfigApiImpl.cpp` lines 48–68); the branch that
    would send the slice configuration is commented out. -/
def nssfSliceConfigGet : List Action :=
  [.send HttpStatusCode.serviceUnavailable (some "application/json") .empty]

/-- `nssf_slice_config_get_apis` (lines 36–46). It does not look at the `bool` that
    `get_api_list` returns. -/
def nssfSliceConfigGetApis : List Action :=
  [.send HttpStatusCode.ok (some "application/json") getApiList.2]

/-- The slice-config route, `/nnssf-slice-config`. -/
def sliceConfigRoute (r : Request) : List Action :=
  if r.method = "GET" then nssfSliceConfigGet else apiDefaultHandler

/-- The root route, `/`. -/
def rootRoute (r : Request) : List Action :=
  if r.method = "GET" then nssfSliceConfigGetApis else apiDefaultHandler

end OaiNssf.Http1
