import OaiNssf.Lib.Callback
import OaiNssf.Model.Sbi

/-!
# Model of the HTTP/2 server

`api-server/nssf-http2-server.cpp`: the routes registered in `start` and the
handlers they call. A route installs an `on_data` callback, which nghttp2 calls once
for each received DATA chunk and once with length 0 at the end of the stream. The
callback is a function of the bytes it is given; its state is the configuration.

The `try` block of a callback is an `Except Exn`. It catches
`nlohmann::detail::exception`; another exception escapes the callback and ends the
run. Nothing is sent before the last call of a block that can throw.
-/

namespace OaiNssf.Http2

open Callback

variable (C : Common) (K : Codec)

/-- A chunk of a request body: one call of `on_data` with `len > 0`. -/
abbrev Chunk := { bytes : List UInt8 // bytes ≠ [] }

/-- A request on one of the routes. -/
structure Request where
  method : String
  path : String := ""
  query : Query := fun _ => none
  chunks : List Chunk := []

/-- The bytes with which `on_data` is called, call by call. -/
def Request.calls (r : Request) : List (List UInt8) := r.chunks.map Subtype.val ++ [[]]

/-- `oai::utils::get_query_param`: the empty string stands for an absent parameter. -/
def getQueryParam (query : Query) (name : QueryParam) : String := (query name).getD ""

/-- `NF_TYPE_AMF` and `NF_TYPE_NSSF` (`nssf.h` lines 13–14). -/
def nfTypeAmf : String := "AMF"

def nfTypeNssf : String := "NSSF"

/-- A `try` block with its handler, the same in both routes that parse: a JSON
    exception is answered, another one escapes. -/
def catchJson (cfg : NssfConfig) (block : Except Exn (List Action × NssfConfig)) :
    Outcome NssfConfig Action :=
  match block with
  | .ok (actions, cfg) => { state := cfg, actions := actions }
  | .error (.json _) =>
    { state := cfg
      actions := [.writeHead HttpStatusCode.badRequest none, .endWith .empty] }
  | .error (.other _) => { state := cfg, actions := [], escaped := true }

/-! ## NS Selection -/

/-- The body that `get_slice_info_for_registration_handler` and
    `get_slice_info_for_pdu_session_handler` have in common. -/
def selectionHandler (nfType : String) (handle : App.SelectionState → App.SelectionState) :
    List Action :=
  if nfType = nfTypeAmf ∨ nfType = nfTypeNssf then
    let st := handle {}
    if st.httpCode = HttpStatusCode.ok then
      [.writeHead st.httpCode (some "application/json"),
        .endWith (.authorizedNetworkSliceInfo st.authSliceInfo)]
    else
      [.writeHead st.httpCode (some "application/json"),
        .endWith (.problemDetails st.problemDetails)]
  else [.writeHead HttpStatusCode.badRequest (some "application/json"), .endWith .empty]

/-- `get_slice_info_for_registration_handler` (lines 238–282). -/
def getSliceInfoForRegistrationHandler (cfg : NssfConfig) (nfType _nfId : String)
    (sliceInfo : SliceInfoForRegistration) (tai : Tai) (homePlmnid : PlmnId)
    (features : String) : List Action :=
  selectionHandler nfType
    (App.handleSliceInfoForRegistration C cfg sliceInfo tai homePlmnid features 2)

/-- `get_slice_info_for_pdu_session_handler` (lines 285–332). -/
def getSliceInfoForPduSessionHandler (cfg : NssfConfig) (nfType _nfId : String)
    (sliceInfo : SliceInfoForPDUSession) (tai : Tai) (homePlmnid : PlmnId)
    (features : String) : List Action :=
  selectionHandler nfType
    (App.handleSliceInfoForPduSession C cfg sliceInfo tai homePlmnid features 2)

/-- `get_slice_info_for_ue_cu_handler` (lines 335–351). -/
def getSliceInfoForUeCuHandler : List Action :=
  [.writeHead HttpStatusCode.serviceUnavailable none,
    .endWith (.text "API not implemented yet !!!")]

/-- `get_slice_info_default_handler` (lines 354–363): it only logs. -/
def getSliceInfoDefaultHandler : List Action := []

/-- Parsing of a parameter that is left at its default when absent. -/
def parseOptional {α : Type} (parse : String → Except Exn α) (default : α) (value : String) :
    Except Exn α :=
  if value ≠ "" then parse (cStr value) else .ok default

/-- The `try` block of the NS Selection callback for a GET (lines 46–134). The value
    for the UE configuration update is read from the registration parameter. -/
def nsSelectionGet (cfg : NssfConfig) (query : Query) : Except Exn (List Action) := do
  let nfType := getQueryParam query .nfType
  let nfId := getQueryParam query .nfId
  let sliceInfoReg := getQueryParam query .sliceInfoRequestForRegistration
  let sliceInfoPduSession := getQueryParam query .sliceInfoRequestForPduSession
  let sliceInfoUeCu := getQueryParam query .sliceInfoRequestForRegistration
  let supportedFeatures := getQueryParam query .supportedFeatures
  let homePlmnid ← parseOptional K.parsePlmnId {} (getQueryParam query .homePlmnId)
  let tai ← parseOptional K.parseTai {} (getQueryParam query .tai)
  if sliceInfoReg ≠ "" then
    let sliceInfo ← K.parseSliceInfoForRegistration (cStr sliceInfoReg)
    return getSliceInfoForRegistrationHandler C cfg nfType nfId sliceInfo tai homePlmnid
      supportedFeatures
  else if sliceInfoPduSession ≠ "" then
    let sliceInfo ← K.parseSliceInfoForPDUSession (cStr sliceInfoPduSession)
    return getSliceInfoForPduSessionHandler C cfg nfType nfId sliceInfo tai homePlmnid
      supportedFeatures
  else if sliceInfoUeCu ≠ "" then
    let _ ← K.parseSliceInfoForUEConfigurationUpdate (cStr sliceInfoUeCu)
    return getSliceInfoForUeCuHandler
  else return getSliceInfoDefaultHandler

/-- The callback of the NS Selection route (lines 42–146). -/
def nsSelectionOnData (method : String) (query : Query) (cfg : NssfConfig)
    (_data : List UInt8) : Outcome NssfConfig Action :=
  catchJson cfg
    (if method = "GET" then (nsSelectionGet C K cfg query).map fun actions => (actions, cfg)
    else .ok ([], cfg))

/-- The NS Selection route. -/
def nsSelectionRoute (cfg : NssfConfig) (r : Request) : Outcome NssfConfig Action :=
  run (nsSelectionOnData C K r.method r.query) cfg r.calls

/-! ## NSSAI availability -/

/-- `create_nssai_availability_handler` (lines 366–397), with the configuration it
    leaves. -/
def createNssaiAvailabilityHandler (cfg : NssfConfig) (nfId : String)
    (nssaiAvailInfo : NssaiAvailabilityInfo) : List Action × NssfConfig :=
  let st := App.handleCreateNssaiAvailability nfId nssaiAvailInfo 2 { cfg := cfg }
  let call := Action.createNssaiAvailability nfId nssaiAvailInfo
  if st.httpCode = HttpStatusCode.noContent then
    ([call, .writeHead st.httpCode none, .endWith .empty], st.cfg)
  else if st.httpCode = HttpStatusCode.ok then
    ([call, .writeHead st.httpCode (some "application/json"),
      .endWith (.authorizedNssaiAvailabilityInfo st.authInfo)], st.cfg)
  else
    ([call, .writeHead st.httpCode (some "application/problem+json"),
      .endWith (.problemDetails st.problemDetails)], st.cfg)

/-- The last segment of the path, as a C string (lines 159–162). -/
def pathNfId (path : String) : String :=
  let splitResult := path.toList.splitOn '/'
  cStr (String.ofList (splitResult.getLast (List.splitOn_ne_nil _ _)))

/-- The bytes that `msg.c_str()` delimits. -/
def cStrBytes (msg : List UInt8) : List UInt8 := msg.takeWhile (· ≠ 0)

/-- The `try` block of the availability callback (lines 158–185): what is done when
    the method is a PUT or a PATCH and the call carries data. A DELETE does
    nothing. -/
def availabilityBlock (method path : String) (cfg : NssfConfig) (data : List UInt8) :
    Except Exn (List Action × NssfConfig) := do
  let nfId := pathNfId path
  if nfId ≠ "" then
    if method = "PUT" ∧ data.length > 0 then
      let nssaiAvailData ← K.parseNssaiAvailabilityInfo (cStrBytes data)
      return createNssaiAvailabilityHandler cfg nfId nssaiAvailData
    else if method = "PATCH" ∧ data.length > 0 then
      let _ ← K.parsePatchItems (cStrBytes data)
      return ([], cfg)
    else return ([], cfg)
  else return ([], cfg)

/-- The callback of the NF Instance ID route (lines 156–193). -/
def availabilityOnData (method path : String) (cfg : NssfConfig) (data : List UInt8) :
    Outcome NssfConfig Action :=
  catchJson cfg (availabilityBlock K method path cfg data)

/-- The NSSAI-availability route. -/
def nssaiAvailabilityRoute (cfg : NssfConfig) (r : Request) : Outcome NssfConfig Action :=
  run (availabilityOnData K r.method r.path) cfg r.calls

/-! ## Custom APIs -/

/-- `get_slice_config` (lines 400–417): everything that would answer is commented
    out. -/
def getSliceConfig : List Action := []

/-- `nssf_http2_server::get_api_list` (lines 419–434). -/
def getApiListHandler : List Action :=
  let (found, jsonData) := getApiList
  if found then
    [.writeHead HttpStatusCode.ok (some "application/json"), .endWith jsonData]
  else
    [.writeHead HttpStatusCode.serviceUnavailable (some "application/json"), .endWith .empty]

/-- The callback of a custom route: a GET runs the handler, on every call. -/
def customOnData (handler : List Action) (method : String) (cfg : NssfConfig)
    (_data : List UInt8) : Outcome NssfConfig Action where
  state := cfg
  actions := if method = "GET" then handler else []

/-- The slice-config route, `/nnssf-slice-config` (lines 210–218). -/
def sliceConfigRoute (cfg : NssfConfig) (r : Request) : Outcome NssfConfig Action :=
  run (customOnData getSliceConfig r.method) cfg r.calls

/-- The root route, `/` (lines 221–227). -/
def rootRoute (cfg : NssfConfig) (r : Request) : Outcome NssfConfig Action :=
  run (customOnData getApiListHandler r.method) cfg r.calls

end OaiNssf.Http2
