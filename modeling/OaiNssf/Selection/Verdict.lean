import OaiNssf.Selection.Loops

/-!
# What the two selection handlers decide

The purpose of a selection handler, stated without loops: a request has a
*verdict*, given by a relation on the configuration and the request, and a
verdict has an outcome for `http_code` and `auth_slice_info`. The handlers of
`nssf_slice_selection.cpp` refine this:

* `RegistrationDecides.handle_eq`, `PduSessionDecides.handle_eq`: a handler ends
  with the outcome of the verdict of its request;
* `exists_registrationDecides`, `exists_pduSessionDecides`: every request has a
  verdict.

Later modules split on the verdict and do not unfold the handlers.
-/

namespace OaiNssf.SliceSelect

open Coverage

/-- The TAI check, made only on a non-empty TAC. -/
def TaAuthorised (cfg : NssfConfig) (tai : Tai) : Prop := tai.tac = "" ∨ TaConfigured cfg tai

instance (cfg : NssfConfig) (tai : Tai) : Decidable (TaAuthorised cfg tai) :=
  inferInstanceAs (Decidable (_ ∨ _))

theorem taCheck_iff {cfg : NssfConfig} {tai : Tai} :
    (tai.tac ≠ "" ∧ (!validateTa cfg tai) = true) ↔ ¬TaAuthorised cfg tai := by
  rw [TaAuthorised, ← validateTa_iff, not_or, Bool.not_eq_true', Bool.not_eq_true]

/-! ## Registration -/

section Registration

variable (C : Common) (cfg : NssfConfig) (si : SliceInfoForRegistration) (tai : Tai)
  (home : PlmnId)

/-- Neither mapping is requested and no home PLMN is given. -/
structure InScope : Prop where
  noRequestMapping : si.requestMappingIsSet = false
  noMappingOfNssai : si.mappingOfNssaiIsSet = false
  noHomePlmn : home.mcc = ""

instance (si : SliceInfoForRegistration) (home : PlmnId) : Decidable (InScope si home) :=
  decidable_of_iff
    (si.requestMappingIsSet = false ∧ si.mappingOfNssaiIsSet = false ∧ home.mcc = "")
    ⟨fun h => ⟨h.1, h.2.1, h.2.2⟩, fun h => ⟨h.1, h.2, h.3⟩⟩

/-- The scope depends on two flags of the request. -/
theorem InScope.congr {si si' : SliceInfoForRegistration} {home : PlmnId} (h : InScope si home)
    (hmapping : si.requestMappingIsSet = si'.requestMappingIsSet)
    (hmappingOf : si.mappingOfNssaiIsSet = si'.mappingOfNssaiIsSet) : InScope si' home where
  noRequestMapping := hmapping ▸ h.noRequestMapping
  noMappingOfNssai := hmappingOf ▸ h.noMappingOfNssai
  noHomePlmn := h.noHomePlmn

/-- The verdicts on a registration request. -/
inductive RegistrationVerdict where
  | notSupported
  | taNotAuthorised
  | undecided
  | notInPlmn (requested : List Snssai)
  | noAmfSet (allowed : List Snssai)
  | granted (allowed : List Snssai) (set : AmfInfo) (candidates : List String)

/-- The exit of the handler for each verdict, entered with `httpCode` and `auth`. -/
def RegistrationVerdict.outcome (httpCode : ℤ) (auth : AuthorizedNetworkSliceInfo) :
    RegistrationVerdict → SelectionResult
  | .notSupported => ⟨false, HttpStatusCode.serviceUnavailable, auth⟩
  | .taNotAuthorised => ⟨false, httpCode, auth⟩
  | .undecided => ⟨true, httpCode, auth⟩
  | .notInPlmn requested =>
    ⟨false, HttpStatusCode.forbidden, { auth with rejectedNssaiInPlmn := some requested }⟩
  | .noAmfSet allowed => ⟨false, HttpStatusCode.forbidden, withAllowed allowed auth⟩
  | .granted allowed set candidates =>
    ⟨true, HttpStatusCode.ok, withAmfSet set candidates (withAllowed allowed auth)⟩

/-- The verdict on a registration request, check by check. -/
inductive RegistrationDecides : RegistrationVerdict → Prop
  | notSupported (hscope : ¬InScope si home) : RegistrationDecides .notSupported
  | taNotAuthorised (hscope : InScope si home) (hta : ¬TaAuthorised cfg tai) :
      RegistrationDecides .taNotAuthorised
  | undecided (hscope : InScope si home) (hta : TaAuthorised cfg tai)
      (hnone : si.requestedNssai = none ∨ si.subscribedNssai = none) :
      RegistrationDecides .undecided
  | notInPlmn (hscope : InScope si home) (hta : TaAuthorised cfg tai) {req : List Snssai}
      {sub : List SubscribedSnssai} (hreq : si.requestedNssai = some req)
      (hsub : si.subscribedNssai = some sub) (hmatch : ∀ r ∈ req, ¬Subscribed C sub r) :
      RegistrationDecides (.notInPlmn req)
  | noAmfSet (hscope : InScope si home) (hta : TaAuthorised cfg tai) {req : List Snssai}
      {sub : List SubscribedSnssai} (hreq : si.requestedNssai = some req)
      (hsub : si.subscribedNssai = some sub) (hmatch : ∃ r ∈ req, Subscribed C sub r)
      (hamf : ∀ set ∈ cfg.amfInfoList, ¬HasServingAmf C req set) :
      RegistrationDecides (.noAmfSet (matchedSnssai C sub req))
  | granted (hscope : InScope si home) (hta : TaAuthorised cfg tai) {req : List Snssai}
      {sub : List SubscribedSnssai} (hreq : si.requestedNssai = some req)
      (hsub : si.subscribedNssai = some sub) (hmatch : ∃ r ∈ req, Subscribed C sub r)
      {set : AmfInfo} (hamf : IsFirst (HasServingAmf C req) cfg.amfInfoList set) :
      RegistrationDecides (.granted (matchedSnssai C sub req) set (servingAmfs C req set))

variable {C cfg si tai home}

theorem matchedSnssai_ne_nil_iff {sub : List SubscribedSnssai} {req : List Snssai} :
    matchedSnssai C sub req ≠ [] ↔ ∃ r ∈ req, Subscribed C sub r := by
  simp [matchedSnssai_eq_nil_iff]

/-- The handler past the mapping and roaming checks. -/
theorem handle_of_inScope (h : InScope si home) (features : String) (httpCode : ℤ)
    (httpVersion : ℕ) (auth : AuthorizedNetworkSliceInfo) :
    handleSliceInfoForRegistration C cfg si tai home features httpCode httpVersion auth =
      if tai.tac ≠ "" ∧ !validateTa cfg tai then ⟨false, httpCode, auth⟩
      else handleSliceInfoForRegistration C cfg si {} {} features httpCode httpVersion auth := by
  obtain ⟨h1, h2, h3⟩ := h
  unfold handleSliceInfoForRegistration
  simp [h1, h2, h3]

/-- The handler with both lists set and every earlier check passed. -/
theorem handle_of_both_set (hscope : InScope si home) (hta : TaAuthorised cfg tai)
    {req : List Snssai} {sub : List SubscribedSnssai} (hreq : si.requestedNssai = some req)
    (hsub : si.subscribedNssai = some sub) (features : String) (httpCode : ℤ)
    (httpVersion : ℕ) (auth : AuthorizedNetworkSliceInfo) :
    handleSliceInfoForRegistration C cfg si tai home features httpCode httpVersion auth =
      if matchedSnssai C sub req = [] then
        ⟨false, HttpStatusCode.forbidden, { auth with rejectedNssaiInPlmn := some req }⟩
      else
        let (found, auth) :=
          amfSetLoop C req cfg.amfInfoList [] (withAllowed (matchedSnssai C sub req) auth)
        if found then ⟨true, HttpStatusCode.ok, auth⟩
        else ⟨false, HttpStatusCode.forbidden, auth⟩ := by
  obtain ⟨h1, h2, h3⟩ := hscope
  have hta' := mt taCheck_iff.mp (not_not_intro hta)
  unfold handleSliceInfoForRegistration validateRnssaiInTa getValidAmfset
  rw [if_neg (by simp [h1]), if_neg (by simp [h2]), if_neg (not_not_intro h3), if_neg hta',
    if_pos (by simp [hreq]), if_pos (by simp [hsub]), validateRnssaiInPlmn_eq hreq hsub, hreq]
  by_cases hnil : matchedSnssai C sub req = []
  · simp [hnil]
  · simp only [if_neg hnil, Bool.not_true, Bool.false_eq_true, if_false, Option.getD_some]
    cases amfSetLoop C req cfg.amfInfoList [] (withAllowed (matchedSnssai C sub req) auth) with
    | mk found auth' => cases found <;> rfl

/-- The registration handler ends with the outcome of the verdict. -/
theorem RegistrationDecides.handle_eq {v : RegistrationVerdict}
    (h : RegistrationDecides C cfg si tai home v) (features : String) (httpCode : ℤ)
    (httpVersion : ℕ) (auth : AuthorizedNetworkSliceInfo) :
    handleSliceInfoForRegistration C cfg si tai home features httpCode httpVersion auth =
      v.outcome httpCode auth := by
  cases h with
  | notSupported hscope =>
    unfold handleSliceInfoForRegistration
    cases h1 : si.requestMappingIsSet
    · cases h2 : si.mappingOfNssaiIsSet
      · rw [if_neg Bool.false_ne_true, if_neg Bool.false_ne_true,
          if_pos fun hmcc => hscope ⟨h1, h2, hmcc⟩]
        rfl
      · rfl
    · rfl
  | taNotAuthorised hscope hta =>
    rw [handle_of_inScope hscope, if_pos (taCheck_iff.mpr hta)]
    rfl
  | undecided hscope hta hnone =>
    rw [handle_of_inScope hscope, if_neg (mt taCheck_iff.mp (not_not_intro hta))]
    obtain ⟨h1, h2, -⟩ := hscope
    unfold handleSliceInfoForRegistration
    rcases hnone with hreq | hsub
    · simp [h1, h2, hreq, RegistrationVerdict.outcome]
    · simp [h1, h2, hsub, RegistrationVerdict.outcome]
  | notInPlmn hscope hta hreq hsub hmatch =>
    rw [handle_of_both_set hscope hta hreq hsub, if_pos (matchedSnssai_eq_nil_iff.mpr hmatch)]
    rfl
  | noAmfSet hscope hta hreq hsub hmatch hamf =>
    rw [handle_of_both_set hscope hta hreq hsub, if_neg (matchedSnssai_ne_nil_iff.mpr hmatch),
      amfSetLoop_of_forall_not hamf]
    rfl
  | granted hscope hta hreq hsub hmatch hamf =>
    rw [handle_of_both_set hscope hta hreq hsub, if_neg (matchedSnssai_ne_nil_iff.mpr hmatch),
      amfSetLoop_of_isFirst hamf]
    rfl

variable (C cfg si tai home)

/-- Every registration request has a verdict. -/
theorem exists_registrationDecides : ∃ v, RegistrationDecides C cfg si tai home v := by
  by_cases hscope : InScope si home
  swap
  · exact ⟨_, .notSupported hscope⟩
  by_cases hta : TaAuthorised cfg tai
  swap
  · exact ⟨_, .taNotAuthorised hscope hta⟩
  cases hreq : si.requestedNssai with
  | none => exact ⟨_, .undecided hscope hta (Or.inl hreq)⟩
  | some req =>
    cases hsub : si.subscribedNssai with
    | none => exact ⟨_, .undecided hscope hta (Or.inr hsub)⟩
    | some sub =>
      by_cases hmatch : ∃ r ∈ req, Subscribed C sub r
      · by_cases hamf : ∃ set ∈ cfg.amfInfoList, HasServingAmf C req set
        · obtain ⟨set, hset⟩ := exists_isFirst_iff.mpr hamf
          exact ⟨_, .granted hscope hta hreq hsub hmatch hset⟩
        · exact ⟨_, .noAmfSet hscope hta hreq hsub hmatch fun s hs h => hamf ⟨s, hs, h⟩⟩
      · exact ⟨_, .notInPlmn hscope hta hreq hsub fun r hr h => hmatch ⟨r, hr, h⟩⟩

end Registration

/-! ## PDU session -/

section PduSession

variable (C : Common) (cfg : NssfConfig) (si : SliceInfoForPDUSession) (tai : Tai)
  (home : PlmnId)

/-- The roaming indication is `NON_ROAMING` and no home PLMN is given. -/
structure NonRoaming : Prop where
  indication : C.roamingIndicationValue si.roamingIndication = roamingIndNonRoaming
  noHomePlmn : home.mcc = ""

instance : Decidable (NonRoaming C si home) :=
  decidable_of_iff
    (C.roamingIndicationValue si.roamingIndication = roamingIndNonRoaming ∧ home.mcc = "")
    ⟨fun h => ⟨h.1, h.2⟩, fun h => ⟨h.1, h.2⟩⟩

/-- The verdicts on a PDU-session request. -/
inductive PduSessionVerdict where
  | notSupported
  | badRequest
  | granted (nsiInfo : NsiInformation)

/-- The exit of the handler for each verdict. -/
def PduSessionVerdict.outcome (auth : AuthorizedNetworkSliceInfo) :
    PduSessionVerdict → SelectionResult
  | .notSupported => ⟨false, HttpStatusCode.serviceUnavailable, auth⟩
  | .badRequest => ⟨false, HttpStatusCode.badRequest, auth⟩
  | .granted nsiInfo => ⟨true, HttpStatusCode.ok, { auth with nsiInformation := some nsiInfo }⟩

/-- The verdict on a PDU-session request, check by check. -/
inductive PduSessionDecides : PduSessionVerdict → Prop
  | notSupported (hroam : ¬NonRoaming C si home) : PduSessionDecides .notSupported
  | taNotAuthorised (hroam : NonRoaming C si home) (hta : ¬TaAuthorised cfg tai) :
      PduSessionDecides .badRequest
  | noNsi (hroam : NonRoaming C si home) (hta : TaAuthorised cfg tai)
      (hnsi : ∀ i ∈ cfg.nsiInfoList, ¬Matches C si.sNssai i.snssai) :
      PduSessionDecides .badRequest
  | granted (hroam : NonRoaming C si home) (hta : TaAuthorised cfg tai) {item : NsiInfo}
      (hnsi : IsFirst (fun i : NsiInfo => Matches C si.sNssai i.snssai) cfg.nsiInfoList item) :
      PduSessionDecides (.granted item.nsiInfo)

variable {C cfg si tai home}

/-- The PDU-session handler ends with the outcome of the verdict, whatever
    `http_code` it was called with. -/
theorem PduSessionDecides.handle_eq {v : PduSessionVerdict}
    (h : PduSessionDecides C cfg si tai home v) (features : String) (httpCode : ℤ)
    (httpVersion : ℕ) (auth : AuthorizedNetworkSliceInfo) :
    handleSliceInfoForPduSession C cfg si tai home features httpCode httpVersion auth =
      v.outcome auth := by
  unfold handleSliceInfoForPduSession validateNsi
  cases h with
  | notSupported hroam =>
    by_cases hind : C.roamingIndicationValue si.roamingIndication = roamingIndNonRoaming
    · rw [if_neg (not_not_intro hind), if_pos fun hmcc => hroam ⟨hind, hmcc⟩]
      rfl
    · rw [if_pos hind]
      rfl
  | taNotAuthorised hroam hta =>
    rw [if_neg (not_not_intro hroam.indication), if_neg (not_not_intro hroam.noHomePlmn),
      if_pos (taCheck_iff.mpr hta)]
    rfl
  | noNsi hroam hta hnsi =>
    rw [if_neg (not_not_intro hroam.indication), if_neg (not_not_intro hroam.noHomePlmn),
      if_neg (mt taCheck_iff.mp (not_not_intro hta)), nsiLoop_of_forall_not hnsi]
    rfl
  | granted hroam hta hnsi =>
    rw [if_neg (not_not_intro hroam.indication), if_neg (not_not_intro hroam.noHomePlmn),
      if_neg (mt taCheck_iff.mp (not_not_intro hta)), nsiLoop_of_isFirst hnsi]
    rfl

variable (C cfg si tai home)

/-- Every PDU-session request has a verdict. -/
theorem exists_pduSessionDecides : ∃ v, PduSessionDecides C cfg si tai home v := by
  by_cases hroam : NonRoaming C si home
  swap
  · exact ⟨_, .notSupported hroam⟩
  by_cases hta : TaAuthorised cfg tai
  swap
  · exact ⟨_, .taNotAuthorised hroam hta⟩
  by_cases hnsi : ∃ i ∈ cfg.nsiInfoList, Matches C si.sNssai i.snssai
  · obtain ⟨item, hitem⟩ := exists_isFirst_iff.mpr hnsi
    exact ⟨_, .granted hroam hta hitem⟩
  · exact ⟨_, .noNsi hroam hta fun i hi h => hnsi ⟨i, hi, h⟩⟩

end PduSession

end OaiNssf.SliceSelect
