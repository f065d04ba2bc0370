import OaiNssf.Model.Types

/-!
# Model of `nssf_slice_availability.cpp`

`handle_create_nssai_availability` and `amf_set_present`. The other handlers of the
file are stubs that return `false`.

`amf_set_present` assigns the set it finds to its reference parameter, and
`for (auto amf : …)` binds `amf` to a copy, so the handler works on copies
throughout: the local `amf_info`, and in the loop the local `amf`. `nssf_cfg` is
threaded as `cfg`, and what the handler returns is the `cfg` it was given.
-/

namespace OaiNssf.SliceAvail

/-- `amf_set_present` (lines 23–32), on the list it iterates over: the returned
    `bool` and the value of the reference parameter `amf_info`. -/
def amfSetPresent (targetAmfSet : String) (amfInfo : AmfInfo) : List AmfInfo → Bool × AmfInfo
  | [] => (false, amfInfo)
  | amfInfoIt :: rest =>
    if amfInfoIt.targetAmfSet = targetAmfSet then (true, amfInfoIt)
    else amfSetPresent targetAmfSet amfInfo rest

/-- The loop of lines 55–65, on `(update_done, http_code)`. -/
def replaceLoop (nfId : String) (data : List SupportedNssaiAvailabilityData) (httpCode : ℤ) :
    List (String × List SupportedNssaiAvailabilityData) → Bool × ℤ
  | [] => (false, httpCode)
  | amf :: rest =>
    if amf.1 = nfId then
      -- the copy `amf` gets the new data and ends with the round
      let _amf := (amf.1, data)
      (true, HttpStatusCode.noContent)
    else replaceLoop nfId data httpCode rest

/-- What the handler leaves behind: its return value, `http_code` and the
    configuration. -/
structure AvailabilityResult where
  result : Bool
  httpCode : ℤ
  cfg : NssfConfig
  deriving DecidableEq, Repr

/-- `handle_create_nssai_availability` (lines 34–87). It does not touch the
    parameter `auth_info`. -/
def handleCreateNssaiAvailability (cfg : NssfConfig) (nfId : String)
    (nssaiAvailInfo : NssaiAvailabilityInfo) (httpCode : ℤ) (_httpVersion : ℕ) :
    AvailabilityResult :=
  match nssaiAvailInfo.amfSetId with
  | some amfSet =>
    if amfSet ≠ "" then
      let (present, amfInfo) := amfSetPresent amfSet {} cfg.amfInfoList
      if present then
        let data := nssaiAvailInfo.supportedNssaiAvailabilityData
        let (updateDone, httpCode) := replaceLoop nfId data httpCode amfInfo.amfList
        if !updateDone then
          -- the local set gets the new AMF and goes out of scope
          let _amfInfo := { amfInfo with amfList := amfInfo.amfList ++ [(cStr nfId, data)] }
          ⟨true, HttpStatusCode.noContent, cfg⟩
        else ⟨true, httpCode, cfg⟩
      else ⟨false, HttpStatusCode.serviceUnavailable, cfg⟩
    else ⟨true, httpCode, cfg⟩
  | none => ⟨false, HttpStatusCode.serviceUnavailable, cfg⟩

end OaiNssf.SliceAvail
