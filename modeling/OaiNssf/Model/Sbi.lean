import OaiNssf.Model.App

/-!
# What the two servers share

Requests and responses of the service-based interface, as both servers of
`src/api-server` see them. The decoders and the JSON writers belong to
`common-src` and nlohmann's library; they are the fields of a `Codec`.
-/

namespace OaiNssf

/-- An exception thrown while a parameter or a body is decoded: one of
    `nlohmann::detail::exception`, or another `std::exception`. -/
inductive Exn where
  | json (what : String)
  | other (what : String)
  deriving DecidableEq, Repr

/-- `e.what()`. -/
def Exn.what : Exn → String
  | .json what => what
  | .other what => what

/-- `SliceInfoForUEConfigurationUpdate`; both servers only ask whether it decodes. -/
structure SliceInfoForUEConfigurationUpdate where
  deriving DecidableEq, Repr

/-- `PatchItem`; both servers only ask whether it decodes. -/
structure PatchItem where
  deriving DecidableEq, Repr

/-- `NFType`; the HTTP/1 server only asks whether it decodes. -/
structure NFType where
  deriving DecidableEq, Repr

/-- The decoders and JSON writers that `src/` calls. The texts of a document are valid UTF-8,
    on which `dump()` throws nothing. -/
structure Codec where
  /-- The overloads of `fromStringValue`; `none` is the return value `false`. -/
  nfTypeFromStringValue : String → Except Exn (Option NFType)
  stringFromStringValue : String → Except Exn (Option String)
  plmnIdFromStringValue : String → Except Exn (Option PlmnId)
  taiFromStringValue : String → Except Exn (Option Tai)
  /-- `nlohmann::json::parse(…).get_to(…)` on a C string. -/
  parsePlmnId : String → Except Exn PlmnId
  parseTai : String → Except Exn Tai
  parseSliceInfoForRegistration : String → Except Exn SliceInfoForRegistration
  parseSliceInfoForPDUSession : String → Except Exn SliceInfoForPDUSession
  parseSliceInfoForUEConfigurationUpdate : String → Except Exn SliceInfoForUEConfigurationUpdate
  /-- The same on the bytes of a body. -/
  parseNssaiAvailabilityInfo : List UInt8 → Except Exn NssaiAvailabilityInfo
  parsePatchItems : List UInt8 → Except Exn (List PatchItem)
  /-- `NssaiAvailabilityInfo::validate()`. -/
  validateNssaiAvailabilityInfo : NssaiAvailabilityInfo → Except Exn Unit
  /-- `to_json` followed by `dump()`. -/
  dumpAuthorizedNetworkSliceInfo : AuthorizedNetworkSliceInfo → String
  dumpAuthorizedNssaiAvailabilityInfo : AuthorizedNssaiAvailabilityInfo → String
  dumpProblemDetails : ProblemDetails → String
  /-- `dump(4)` of the document that `get_api_list` builds. -/
  dumpApiList : String

/-- The constants of `sbi_helper` from which both servers build their routes, and the
    version that `get_api_version` returns. -/
structure Paths where
  nssfNsSelectionBase : String
  nssfNsSelectionPathNetworSliceInformation : String
  nssfNssaiAvailabilityBase : String
  nssfNssaiAvailabilityPathNssaiAvailability : String
  nssfNssaiAvailabilityPathSubscriptions : String
  nssfNssaiAvailabilityPathSubscriptionId : String
  apiVersion : String

/-! ## Requests -/

/-- The query parameters of a slice selection, named by the macros of `nssf.h`
    (lines 17–21) and the constants of `sbi_helper`. -/
inductive QueryParam where
  | nfType
  | nfId
  | sliceInfoRequestForRegistration
  | sliceInfoRequestForPduSession
  | sliceInfoRequestForUeCu
  | homePlmnId
  | tai
  | supportedFeatures
  deriving DecidableEq, Repr

/-- A decoded query string: the value of each parameter it carries. -/
abbrev Query := QueryParam → Option String

/-! ## Responses -/

/-- The body of a response, before it is written out. -/
inductive Body where
  | empty
  | text (s : String)
  | authorizedNetworkSliceInfo (info : AuthorizedNetworkSliceInfo)
  | authorizedNssaiAvailabilityInfo (info : AuthorizedNssaiAvailabilityInfo)
  | problemDetails (details : ProblemDetails)
  | apiList
  deriving DecidableEq, Repr

/-- The text of a body. -/
def Codec.content (K : Codec) : Body → String
  | .empty => ""
  | .text s => s
  | .authorizedNetworkSliceInfo info => K.dumpAuthorizedNetworkSliceInfo info
  | .authorizedNssaiAvailabilityInfo info => K.dumpAuthorizedNssaiAvailabilityInfo info
  | .problemDetails details => K.dumpProblemDetails details
  | .apiList => K.dumpApiList

/-- What a server does while it handles a request: `response.send` of Pistache (with
    the content type, if one is added), `response.write_head` and `response.end` of
    nghttp2, and the call of `handle_create_nssai_availability`. -/
inductive Action where
  | send (code : ℤ) (contentType : Option String) (body : Body)
  | writeHead (code : ℤ) (contentType : Option String)
  | endWith (body : Body)
  | createNssaiAvailability (nfId : String) (info : NssaiAvailabilityInfo)
  deriving DecidableEq, Repr

/-- `nssf_config::get_api_list` (`nssf_config.cpp` lines 224–237): the `bool` it
    returns and the fixed document it builds. -/
def getApiList : Bool × Body := (true, .apiList)

end OaiNssf
