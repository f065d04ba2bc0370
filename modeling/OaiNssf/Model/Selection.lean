import OaiNssf.Model.Types

/-!
# Model of `nssf_slice_selection.cpp`

`compare_snssai` and the loops built on it, `validate_ta`, `validate_nsi`, and
the two selection handlers. A loop over local accumulators is a left fold; a loop
that is left early (`break`, `return`) is a structural recursion over the list.

`nssf_cfg` is the argument `cfg`. The reference parameters `http_code` and
`auth_slice_info` are threaded: a handler takes their values at the call and
returns, in a `SelectionResult`, its `bool` with their values at the exit. Log
lines are left out. `problem_details` is handed in too, but neither handler reads
or writes it.
-/

namespace OaiNssf.SliceSelect

variable (C : Common)

/-! ## Comparing S-NSSAIs -/

/-- `compare_snssai` (lines 26–35). The inner test is
    `a.getSd().compare(b.getSd())`, which is nonzero on different strings. -/
def compareSnssai (a b : Snssai) : Bool :=
  if a.sst = b.sst then
    if (a.sd.isSome || b.sd.isSome) && decide (a.sst ≥ C.sstMaxStandardizedValue) then
      if C.getSd a ≠ C.getSd b then false else true
    else true
  else false

/-- The temporary `e_nssai_tmp` of `get_valid_amf` (lines 68–70). -/
def nssaiTmp (e : ExtSnssai) : Snssai := { sst := e.sst, sd := e.sd }

/-! ## Allowed NSSAI -/

/-- The copy of one `snssai` in the loop of `set_allowed_nssai` (lines 46–50). -/
def allowedSnssai (snssai : Snssai) : AllowedSnssai :=
  let copy : Snssai := { sst := snssai.sst }
  let copy := if snssai.sd.isSome then { copy with sd := some (C.getSd snssai) } else copy
  { allowedSnssai := copy }

/-- `set_allowed_nssai` (lines 38–59). -/
def setAllowedNssai (nssai : List Snssai) (authSliceInfo : AuthorizedNetworkSliceInfo) :
    AuthorizedNetworkSliceInfo :=
  let allowedSnssaiList := nssai.foldl (fun list snssai => list ++ [allowedSnssai C snssai]) []
  let allowedNssai : AllowedNssai :=
    { allowedSnssaiList := allowedSnssaiList, accessType := ._3gppAccess }
  { authSliceInfo with allowedNssaiList := some [allowedNssai] }

/-! ## AMF sets -/

/-- The inner loop of `get_valid_amf` (lines 66–72): `amf_matched` for one
    requested S-NSSAI. -/
def amfMatched (eSnssaiList : List ExtSnssai) (rSnssai : Snssai) : Bool :=
  eSnssaiList.foldl
    (fun matched eSnssai => if compareSnssai C rSnssai (nssaiTmp eSnssai) then true else matched)
    false

/-- `get_valid_amf` (lines 61–80). -/
def getValidAmf (eSnssaiList : List ExtSnssai) (rNssai : List Snssai) : Bool :=
  let rejectedSnssai := rNssai.foldl
    (fun rejected rSnssai =>
      if !amfMatched C eSnssaiList rSnssai then rejected ++ [rSnssai] else rejected) []
  if rejectedSnssai.length > 0 then false else true

/-- The loop over the availability entries of one AMF (lines 90–96); `true` is the
    exit by `break`, at which the AMF is pushed. -/
def anyValidAmf (reqNssai : List Snssai) : List SupportedNssaiAvailabilityData → Bool
  | [] => false
  | extSnssai :: rest =>
    if getValidAmf C extSnssai.supportedSnssaiList reqNssai then true
    else anyValidAmf reqNssai rest

/-- The loop over the AMFs of one set (lines 89–97), on `candidate_amf_list`. -/
def pushCandidates (reqNssai : List Snssai)
    (amfList : List (String × List SupportedNssaiAvailabilityData))
    (candidateAmfList : List String) : List String :=
  amfList.foldl
    (fun candidates amf =>
      if anyValidAmf C reqNssai amf.2 then candidates ++ [amf.1] else candidates)
    candidateAmfList

/-- The loop over the AMF sets (lines 88–106), on `(candidate_amf_list,
    auth_slice_info)`. `candidate_amf_list` is declared outside it. -/
def amfSetLoop (reqNssai : List Snssai) :
    List AmfInfo → List String → AuthorizedNetworkSliceInfo → Bool × AuthorizedNetworkSliceInfo
  | [], _, authSliceInfo => (false, authSliceInfo)
  | amfSet :: rest, candidateAmfList, authSliceInfo =>
    let candidateAmfList := pushCandidates C reqNssai amfSet.amfList candidateAmfList
    if !candidateAmfList.isEmpty then
      (true, { authSliceInfo with
        candidateAmfList := some candidateAmfList
        targetAmfSet := some amfSet.targetAmfSet
        nrfAmfSet := some amfSet.nrfAmfSet
        nrfAmfSetNfMgtUri := some amfSet.nrfAmfSetMgt })
    else amfSetLoop reqNssai rest candidateAmfList authSliceInfo

/-- `get_valid_amfset` (lines 82–107). -/
def getValidAmfset (cfg : NssfConfig) (reqNssai : List Snssai)
    (authSliceInfo : AuthorizedNetworkSliceInfo) : Bool × AuthorizedNetworkSliceInfo :=
  amfSetLoop C reqNssai cfg.amfInfoList [] authSliceInfo

/-! ## Validation -/

/-- `validate_rnssai_in_ta` (lines 109–114), a stub in the source. -/
def validateRnssaiInTa (_sliceInfo : SliceInfoForRegistration)
    (authSliceInfo : AuthorizedNetworkSliceInfo) : Bool × AuthorizedNetworkSliceInfo :=
  (true, authSliceInfo)

/-- The inner loop of `validate_rnssai_in_plmn` (lines 123–127): `snssai_matched`
    for one requested S-NSSAI. -/
def snssaiMatched (subscribedNssai : List SubscribedSnssai) (rSnssai : Snssai) : Bool :=
  subscribedNssai.foldl
    (fun matched sSnssai =>
      if compareSnssai C rSnssai sSnssai.subscribedSnssai then true else matched)
    false

/-- `validate_rnssai_in_plmn` (lines 116–144). The getter of an unset list returns
    the empty vector. -/
def validateRnssaiInPlmn (sliceInfo : SliceInfoForRegistration)
    (authSliceInfo : AuthorizedNetworkSliceInfo) : Bool × AuthorizedNetworkSliceInfo :=
  let requestedNssai := sliceInfo.requestedNssai.getD []
  let subscribedNssai := sliceInfo.subscribedNssai.getD []
  let (rejectedSnssai, matchedSnssai) := requestedNssai.foldl
    (fun st rSnssai =>
      if !snssaiMatched C subscribedNssai rSnssai then (st.1 ++ [rSnssai], st.2)
      else (st.1, st.2 ++ [rSnssai])) ([], [])
  if rejectedSnssai.length = requestedNssai.length then
    (false, { authSliceInfo with rejectedNssaiInPlmn := some requestedNssai })
  else (true, setAllowedNssai C matchedSnssai authSliceInfo)

/-- The loop of `validate_nsi` (lines 152–161). -/
def nsiLoop (requestedSnssai : Snssai) : List NsiInfo → NsiInformation → Bool × NsiInformation
  | [], nsiInfo => (false, nsiInfo)
  | item :: rest, nsiInfo =>
    if compareSnssai C requestedSnssai item.snssai then
      let nsiInfo := { nsiInfo with nrfId := item.nsiInfo.nrfId }
      let nsiInfo :=
        if item.nsiInfo.nsiId.isSome then { nsiInfo with nsiId := item.nsiInfo.nsiId } else nsiInfo
      let nsiInfo :=
        if item.nsiInfo.nrfNfMgtUri.isSome then
          { nsiInfo with nrfNfMgtUri := item.nsiInfo.nrfNfMgtUri }
        else nsiInfo
      (true, nsiInfo)
    else nsiLoop requestedSnssai rest nsiInfo

/-- `validate_nsi` (lines 146–170). -/
def validateNsi (cfg : NssfConfig) (sliceInfo : SliceInfoForPDUSession)
    (nsiInfo : NsiInformation) : Bool × NsiInformation :=
  nsiLoop C sliceInfo.sNssai cfg.nsiInfoList nsiInfo

/-- The loop of `validate_ta` (lines 177–182). The source joins the three
    comparisons with `&`. -/
def taLoop (tai : Tai) : List TaInfo → Bool
  | [] => false
  | item :: rest =>
    if tai.plmnId.mcc = item.tai.plmnId.mcc ∧ tai.plmnId.mnc = item.tai.plmnId.mnc ∧
        tai.tac = item.tai.tac then true
    else taLoop tai rest

/-- `validate_ta` (lines 172–188). -/
def validateTa (cfg : NssfConfig) (tai : Tai) : Bool := taLoop tai cfg.taInfoList

/-! ## Handlers -/

/-- What a selection handler leaves behind: its return value and the values of
    `http_code` and `auth_slice_info`. -/
structure SelectionResult where
  result : Bool
  httpCode : ℤ
  authSliceInfo : AuthorizedNetworkSliceInfo
  deriving DecidableEq, Repr

/-- `handle_slice_info_for_registration` (lines 191–294). In the first branch the
    source also tests `sNssaiForMappingIsSet()`, before an empty statement. -/
def handleSliceInfoForRegistration (cfg : NssfConfig) (sliceInfo : SliceInfoForRegistration)
    (tai : Tai) (homePlmnid : PlmnId) (_features : String) (httpCode : ℤ) (_httpVersion : ℕ)
    (authSliceInfo : AuthorizedNetworkSliceInfo) : SelectionResult :=
  if sliceInfo.requestMappingIsSet then
    ⟨false, HttpStatusCode.serviceUnavailable, authSliceInfo⟩
  else if sliceInfo.mappingOfNssaiIsSet then
    ⟨false, HttpStatusCode.serviceUnavailable, authSliceInfo⟩
  else if homePlmnid.mcc ≠ "" then ⟨false, HttpStatusCode.serviceUnavailable, authSliceInfo⟩
  -- `http_code` is not assigned on this exit
  else if tai.tac ≠ "" ∧ !validateTa cfg tai then ⟨false, httpCode, authSliceInfo⟩
  else if sliceInfo.requestedNssai.isSome then
    if sliceInfo.subscribedNssai.isSome then
      let httpCode := HttpStatusCode.forbidden
      let (inPlmn, authSliceInfo) := validateRnssaiInPlmn C sliceInfo authSliceInfo
      if !inPlmn then ⟨false, httpCode, authSliceInfo⟩
      else
        let (inTa, authSliceInfo) := validateRnssaiInTa sliceInfo authSliceInfo
        if !inTa then ⟨false, httpCode, authSliceInfo⟩
        else
          let (amfSetFound, authSliceInfo) :=
            getValidAmfset C cfg (sliceInfo.requestedNssai.getD []) authSliceInfo
          if !amfSetFound then ⟨false, httpCode, authSliceInfo⟩
          else ⟨true, HttpStatusCode.ok, authSliceInfo⟩
    else ⟨true, httpCode, authSliceInfo⟩
  else ⟨true, httpCode, authSliceInfo⟩

/-- `handle_slice_info_for_pdu_session` (lines 296–359). -/
def handleSliceInfoForPduSession (cfg : NssfConfig) (sliceInfo : SliceInfoForPDUSession)
    (tai : Tai) (homePlmnid : PlmnId) (_features : String) (_httpCode : ℤ) (_httpVersion : ℕ)
    (authSliceInfo : AuthorizedNetworkSliceInfo) : SelectionResult :=
  if C.roamingIndicationValue sliceInfo.roamingIndication ≠ roamingIndNonRoaming then
    ⟨false, HttpStatusCode.serviceUnavailable, authSliceInfo⟩
  else if homePlmnid.mcc ≠ "" then ⟨false, HttpStatusCode.serviceUnavailable, authSliceInfo⟩
  else if tai.tac ≠ "" ∧ !validateTa cfg tai then
    ⟨false, HttpStatusCode.badRequest, authSliceInfo⟩
  else
    let (found, nsiInfo) := validateNsi C cfg sliceInfo {}
    if found then
      ⟨true, HttpStatusCode.ok, { authSliceInfo with nsiInformation := some nsiInfo }⟩
    else ⟨false, HttpStatusCode.badRequest, authSliceInfo⟩

end OaiNssf.SliceSelect
