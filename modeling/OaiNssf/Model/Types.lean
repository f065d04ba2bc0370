import Mathlib

/-!
# The data model of the NSSF

The 3GPP records the selection and availability code works on, and the three
configuration tables of `nssf_config.hpp` (lines 17–47). The record classes
(`Snssai.h`, `Tai.h`, …) are generated code in the `common-src` submodule; only
the fields that `src/` reads or writes are kept.

* An optional field with its `…IsSet()` test is an `Option`; an optional field
  of which the code only asks whether it is set is a `Bool`.
* A default member value is what the default-constructed object holds (an empty
  string, an empty vector, an unset field).
* `std::string` is `String`, `std::vector` is `List`, `int` and `int32_t` values
  are `ℤ`.
* What the code takes from `common-src` besides these records (a bound, the
  value of an unset `sd`, an enumerator's value) is a field of `Common`.
-/

namespace OaiNssf

/-- What a C string made by `c_str()` holds: the characters up to the first NUL. -/
def cStr (s : String) : String := String.ofList (s.toList.takeWhile (· ≠ '\x00'))

/-! ## Slices, PLMNs and tracking areas -/

/-- `Snssai`: slice/service type and optional slice differentiator. -/
structure Snssai where
  sst : ℤ := 0
  sd : Option String := none
  deriving DecidableEq, Repr

/-- `ExtSnssai`, without the SD ranges and the wildcard, which nothing reads. -/
structure ExtSnssai where
  sst : ℤ := 0
  sd : Option String := none
  deriving DecidableEq, Repr

/-- `SubscribedSnssai`. -/
structure SubscribedSnssai where
  subscribedSnssai : Snssai
  deriving DecidableEq, Repr

/-- `PlmnId`. -/
structure PlmnId where
  mcc : String := ""
  mnc : String := ""
  deriving DecidableEq, Repr

/-- `Tai`. -/
structure Tai where
  plmnId : PlmnId := {}
  tac : String := ""
  deriving DecidableEq, Repr

/-- `RoamingIndication_anyOf::eRoamingIndication_anyOf`: the three indications of
    `nssf.h` (lines 8–10) and the value of an unset object. -/
inductive RoamingIndication where
  | invalidValue
  | nonRoaming
  | localBreakout
  | homeRoutedRoaming
  deriving DecidableEq, Repr

/-- `ROAMING_IND_NON_ROAMING` (`nssf.h` line 8). -/
def roamingIndNonRoaming : ℤ := 1

/-- What the selection code uses of the `common-src` submodule. -/
structure Common where
  /-- `SST_MAX_STANDARDIZED_VALUE` (`3gpp_23.003.h`). -/
  sstMaxStandardizedValue : ℤ
  /-- What `getSd()` returns on an `Snssai` whose SD was never set. -/
  unsetSd : String
  /-- `int(e)` of an enumerator of `eRoamingIndication_anyOf`. -/
  roamingIndicationValue : RoamingIndication → ℤ

/-- `Snssai::getSd()`. -/
def Common.getSd (C : Common) (s : Snssai) : String := s.sd.getD C.unsetSd

/-! ## Requests -/

/-- `SliceInfoForRegistration`. -/
structure SliceInfoForRegistration where
  subscribedNssai : Option (List SubscribedSnssai) := none
  requestedNssai : Option (List Snssai) := none
  requestMappingIsSet : Bool := false
  mappingOfNssaiIsSet : Bool := false
  deriving DecidableEq, Repr

/-- `SliceInfoForPDUSession`. -/
structure SliceInfoForPDUSession where
  sNssai : Snssai := {}
  roamingIndication : RoamingIndication := .invalidValue
  deriving DecidableEq, Repr

/-- `SupportedNssaiAvailabilityData`: one availability entry of an AMF. -/
structure SupportedNssaiAvailabilityData where
  tai : Tai := {}
  supportedSnssaiList : List ExtSnssai := []
  deriving DecidableEq, Repr

/-- `NssaiAvailabilityInfo`: the body of an availability PUT. -/
structure NssaiAvailabilityInfo where
  supportedNssaiAvailabilityData : List SupportedNssaiAvailabilityData := []
  amfSetId : Option String := none
  deriving DecidableEq, Repr

/-! ## Results -/

/-- `AccessType::eAccessType`. -/
inductive AccessType where
  | _3gppAccess
  | non3gppAccess
  deriving DecidableEq, Repr

/-- `AllowedSnssai`. -/
structure AllowedSnssai where
  allowedSnssai : Snssai
  deriving DecidableEq, Repr

/-- `AllowedNssai`: an Allowed NSSAI for one access type. -/
structure AllowedNssai where
  allowedSnssaiList : List AllowedSnssai
  accessType : AccessType
  deriving DecidableEq, Repr

/-- `NsiInformation`. -/
structure NsiInformation where
  nrfId : String := ""
  nsiId : Option String := none
  nrfNfMgtUri : Option String := none
  deriving DecidableEq, Repr

/-- `AuthorizedNetworkSliceInfo`, with the fields that some function of `src/`
    sets. -/
structure AuthorizedNetworkSliceInfo where
  allowedNssaiList : Option (List AllowedNssai) := none
  targetAmfSet : Option String := none
  candidateAmfList : Option (List String) := none
  rejectedNssaiInPlmn : Option (List Snssai) := none
  nsiInformation : Option NsiInformation := none
  nrfAmfSet : Option String := none
  nrfAmfSetNfMgtUri : Option String := none
  deriving DecidableEq, Repr

/-- `AuthorizedNssaiAvailabilityInfo`; `src/` constructs it and sends it, but
    never sets a field. -/
structure AuthorizedNssaiAvailabilityInfo where
  deriving DecidableEq, Repr

/-- `ProblemDetails`. -/
structure ProblemDetails where
  title : Option String := none
  status : Option ℤ := none
  detail : Option String := none
  cause : Option String := none
  deriving DecidableEq, Repr

/-! ## Configuration tables -/

/-- `nsi_info_t` (`nssf_config.hpp` lines 17–20). -/
structure NsiInfo where
  snssai : Snssai := {}
  nsiInfo : NsiInformation := {}
  deriving DecidableEq, Repr

/-- `ta_info_t` (lines 26–29); the first field is spelled as in the source. -/
structure TaInfo where
  supoortedSnssai : List Snssai := []
  tai : Tai := {}
  deriving DecidableEq, Repr

/-- `amf_info_t` (lines 35–43): one AMF set with its AMFs, each with its
    availability entries. -/
structure AmfInfo where
  targetAmfSet : String := ""
  nrfAmfSet : String := ""
  nrfAmfSetMgt : String := ""
  amfList : List (String × List SupportedNssaiAvailabilityData) := []
  deriving DecidableEq, Repr

/-- The static members `nssf_nsi_info`, `nssf_ta_info` and `nssf_amf_info` of
    `nssf_config` (lines 66–68), each as the one list it holds. -/
structure NssfConfig where
  nsiInfoList : List NsiInfo := []
  taInfoList : List TaInfo := []
  amfInfoList : List AmfInfo := []
  deriving DecidableEq, Repr

/-! ## HTTP status codes -/

/-! `oai::common::sbi::http_status_code` and `Pistache::Http::Code`, the members
`src/` names. -/

namespace HttpStatusCode

abbrev ok : ℤ := 200
abbrev noContent : ℤ := 204
abbrev badRequest : ℤ := 400
abbrev forbidden : ℤ := 403
abbrev notFound : ℤ := 404
abbrev internalServerError : ℤ := 500
abbrev serviceUnavailable : ℤ := 503

end HttpStatusCode

end OaiNssf
