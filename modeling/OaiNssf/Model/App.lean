import OaiNssf.Model.Selection
import OaiNssf.Model.Availability

/-!
# Model of `nssf_app.cpp`

The handlers the two servers call. Each runs the handler of `nssf_slice_select` or
`nssf_slice_avail` and fills `problem_details` when that one refuses with status
403. `handle_slice_info_for_ue_cu` is an empty stub, called by no server.
-/

namespace OaiNssf.App

open SliceSelect SliceAvail

variable (C : Common)

/-- `problem_details` of a refusal with status 403: the four setters called in each
    handler (lines 37–42, 63–68, 95–100), which differ in the detail. -/
def unsupportedResource (detail : String) (problemDetails : ProblemDetails) : ProblemDetails :=
  { problemDetails with
    title := some "UNSUPPORTED_RESOURCE"
    status := some HttpStatusCode.forbidden
    detail := some detail
    cause := some "SNSSAI_NOT_SUPPORTED" }

/-- The reference parameters `http_code`, `problem_details` and `auth_slice_info` of
    a selection, as the servers initialise them. -/
structure SelectionState where
  httpCode : ℤ := 0
  problemDetails : ProblemDetails := {}
  authSliceInfo : AuthorizedNetworkSliceInfo := {}
  deriving DecidableEq, Repr

/-- The test on the handler's result, the same in both selection handlers. -/
def selectionExit (r : SelectionResult) (problemDetails : ProblemDetails) : SelectionState where
  httpCode := r.httpCode
  problemDetails :=
    if r.result then problemDetails
    else if r.httpCode = HttpStatusCode.forbidden then
      unsupportedResource "S-NSSAI in Requested NSSAI is not supported in PLMN" problemDetails
    else problemDetails
  authSliceInfo := r.authSliceInfo

/-- `nssf_app::handle_slice_info_for_registration` (lines 24–47). -/
def handleSliceInfoForRegistration (cfg : NssfConfig) (sliceInfo : SliceInfoForRegistration)
    (tai : Tai) (homePlmnid : PlmnId) (features : String) (httpVersion : ℕ)
    (st : SelectionState) : SelectionState :=
  selectionExit
    (SliceSelect.handleSliceInfoForRegistration C cfg sliceInfo tai homePlmnid features
      st.httpCode httpVersion st.authSliceInfo) st.problemDetails

/-- `nssf_app::handle_slice_info_for_pdu_session` (lines 50–73). -/
def handleSliceInfoForPduSession (cfg : NssfConfig) (sliceInfo : SliceInfoForPDUSession)
    (tai : Tai) (homePlmnid : PlmnId) (features : String) (httpVersion : ℕ)
    (st : SelectionState) : SelectionState :=
  selectionExit
    (SliceSelect.handleSliceInfoForPduSession C cfg sliceInfo tai homePlmnid features
      st.httpCode httpVersion st.authSliceInfo) st.problemDetails

/-- The reference parameters `http_code`, `auth_info` and `problem_details` of an
    availability PUT, with the configuration it runs on. -/
structure AvailabilityState where
  httpCode : ℤ := 0
  problemDetails : ProblemDetails := {}
  authInfo : AuthorizedNssaiAvailabilityInfo := {}
  cfg : NssfConfig
  deriving DecidableEq, Repr

/-- `nssf_app::handle_create_nssai_availability` (lines 83–104). -/
def handleCreateNssaiAvailability (nfId : String) (nssaiAvailInfo : NssaiAvailabilityInfo)
    (httpVersion : ℕ) (st : AvailabilityState) : AvailabilityState :=
  let r := SliceAvail.handleCreateNssaiAvailability st.cfg nfId nssaiAvailInfo st.httpCode
    httpVersion
  { st with
    httpCode := r.httpCode
    problemDetails :=
      if r.result then st.problemDetails
      else if r.httpCode = HttpStatusCode.forbidden then
        unsupportedResource "NSSAI Availability" st.problemDetails
      else st.problemDetails
    cfg := r.cfg }

end OaiNssf.App
