import OaiNssf.Model.Http2

/-!
# Model of the HTTP/2 server as a whole

`nssf_http2_server::start` registers one handler for each of five path patterns. A handler
installs an `on_data` callback on its stream, and nghttp2 calls the callbacks of all streams
from one thread, in the order in which the data arrive.

The callbacks capture the locals of `start` by reference. Of these, `subscriptionID` and
`nssaiAvailabilityInfo` are never touched; `nfId` is assigned by every call of the
availability callback, on whichever stream. It is kept here beside the configuration, as the
state that all streams share.
-/

namespace OaiNssf.Http2

open Callback

variable (C : Common) (K : Codec)

/-- The resources of the five calls of `server.handle` in `start`. -/
inductive Resource where
  | networkSliceInformation
  | nfInstanceId
  | subscriptions
  | sliceConfig
  | apiList
  deriving DecidableEq, Repr

/-- The patterns of the five calls of `server.handle` (lines 36–227), in their order. -/
def muxTable (P : Paths) : List (String × Resource) :=
  let availability := P.nssfNssaiAvailabilityBase ++ P.apiVersion
  [ (P.nssfNsSelectionBase ++ P.apiVersion ++ P.nssfNsSelectionPathNetworSliceInformation,
      .networkSliceInformation),
    (availability ++ P.nssfNssaiAvailabilityPathNssaiAvailability, .nfInstanceId),
    (availability ++ P.nssfNssaiAvailabilityPathSubscriptions, .subscriptions),
    ("/nnssf-slice-config", .sliceConfig),
    ("/", .apiList) ]

/-- What the callbacks of a server share: `nssf_cfg` and the local `nfId` of `start`
    (line 32). -/
structure Server where
  cfg : NssfConfig
  nfId : String := ""
  deriving DecidableEq, Repr

/-- The head of a request, on the stream that carries it. The path is `request.uri().path`, in
    which nghttp2 has resolved the percent-escapes. -/
structure Stream where
  resource : Resource
  method : String
  path : String := ""
  query : Query := fun _ => none

/-- A callback that touches nothing but the configuration. -/
def onConfig (callback : NssfConfig → List UInt8 → Outcome NssfConfig Action) (srv : Server)
    (data : List UInt8) : Outcome Server Action :=
  let outcome := callback srv.cfg data
  { state := { srv with cfg := outcome.state }
    actions := outcome.actions
    escaped := outcome.escaped }

/-- The assignment of line 162. Nothing before it throws. -/
def Server.assignNfId (srv : Server) (path : String) : Server :=
  { srv with nfId := pathNfId path }

/-- The rest of the `try` block of the availability callback (lines 163–185), which reads
    `nfId` from where the callback has written it. -/
def sharedAvailabilityBlock (method : String) (srv : Server) (data : List UInt8) :
    Except Exn (List Action × NssfConfig) := do
  if srv.nfId ≠ "" then
    if method = "PUT" ∧ data.length > 0 then
      let nssaiAvailData ← K.parseNssaiAvailabilityInfo (cStrBytes data)
      return createNssaiAvailabilityHandler srv.cfg srv.nfId nssaiAvailData
    else if method = "PATCH" ∧ data.length > 0 then
      let _ ← K.parsePatchItems (cStrBytes data)
      return ([], srv.cfg)
    else return ([], srv.cfg)
  else return ([], srv.cfg)

/-- The callback of the NF Instance ID route (lines 156–193), on the shared state. -/
def sharedAvailabilityOnData (method path : String) (srv : Server) (data : List UInt8) :
    Outcome Server Action :=
  let srv := srv.assignNfId path
  let outcome := catchJson srv.cfg (sharedAvailabilityBlock K method srv data)
  { state := { srv with cfg := outcome.state }
    actions := outcome.actions
    escaped := outcome.escaped }

/-- The callback of the Subscription ID route (lines 203–205), a stub. -/
def subscriptionsOnData (cfg : NssfConfig) (_data : List UInt8) : Outcome NssfConfig Action where
  state := cfg
  actions := []

/-- The callback that the handler of a resource installs on a stream. -/
def Stream.onData (stream : Stream) : Server → List UInt8 → Outcome Server Action :=
  match stream.resource with
  | .networkSliceInformation => onConfig (nsSelectionOnData C K stream.method stream.query)
  | .nfInstanceId => sharedAvailabilityOnData K stream.method stream.path
  | .subscriptions => onConfig subscriptionsOnData
  | .sliceConfig => onConfig (customOnData getSliceConfig stream.method)
  | .apiList => onConfig (customOnData getApiListHandler stream.method)

/-- The call of the callback of one of the open streams, its actions tagged with the
    stream. -/
def onData {κ : Type} (streams : κ → Stream) (srv : Server) (call : κ × List UInt8) :
    Outcome Server (κ × Action) :=
  let outcome := (streams call.1).onData C K srv call.2
  { state := outcome.state
    actions := outcome.actions.map (Prod.mk call.1)
    escaped := outcome.escaped }

/-- The server, from the configuration it is started with, on the calls of all streams in
    the order in which nghttp2 makes them. An exception that escapes a callback ends it. -/
def serve {κ : Type} (streams : κ → Stream) (cfg : NssfConfig) (calls : List (κ × List UInt8)) :
    Outcome Server (κ × Action) :=
  run (onData C K streams) { cfg := cfg } calls

/-- The callback of a resource when its stream is the only one, with a local `nfId`. -/
def Stream.onDataAlone (stream : Stream) : NssfConfig → List UInt8 → Outcome NssfConfig Action :=
  match stream.resource with
  | .networkSliceInformation => nsSelectionOnData C K stream.method stream.query
  | .nfInstanceId => availabilityOnData K stream.method stream.path
  | .subscriptions => subscriptionsOnData
  | .sliceConfig => customOnData getSliceConfig stream.method
  | .apiList => customOnData getApiListHandler stream.method

end OaiNssf.Http2
