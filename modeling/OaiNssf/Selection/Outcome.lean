import OaiNssf.Selection.Grant

/-!
# What a selection finds and what it writes

The inputs and outputs of the selection functions as a whole, with the fields of
`auth_slice_info` that are left as they were.

* `valid_amfset_eq_first_serving`: `get_valid_amfset` takes the first AMF set with a
  serving AMF, with exactly its serving AMFs.
* `pdu_session_decision_order`: the checks of the PDU-session handler in their order,
  and the one field it writes on success.
* `nsi_first_match`: which network slice instance is returned when one is configured
  for the very S-NSSAI requested.
* `failed_registration_writes`: what a failed registration has written.
-/

namespace OaiNssf.SliceSelect

open Coverage

variable (C : Common) (cfg : NssfConfig)

instance (req : List Snssai) (entries : List SupportedNssaiAvailabilityData) :
    Decidable (ServesNssai C req entries) :=
  decidable_of_iff _ anyValidAmf_iff

theorem servingAmfs_eq_filter (req : List Snssai) (set : AmfInfo) :
    servingAmfs C req set =
      (set.amfList.filter fun amf => ServesNssai C req amf.2).map Prod.fst := by
  have hfilter : (set.amfList.filter fun amf => anyValidAmf C req amf.2) =
      set.amfList.filter fun amf => ServesNssai C req amf.2 := by
    apply List.filter_congr
    intro amf _
    rw [Bool.eq_iff_iff, anyValidAmf_iff, decide_eq_true_iff]
  rw [servingAmfs, hfilter]

/-! ## AMF sets -/

/-- `get_valid_amfset` succeeds when some set has a serving AMF. It then writes the
    names of the first such set and the identifiers of its serving AMFs, in list order
    and one for each AMF; otherwise it writes nothing. -/
theorem valid_amfset_eq_first_serving (req : List Snssai) (auth : AuthorizedNetworkSliceInfo) :
    let out := getValidAmfset C cfg req auth
    (out.1 = true ↔ ∃ set ∈ cfg.amfInfoList, ∃ amf ∈ set.amfList, ServesNssai C req amf.2) ∧
      (out.1 = true → ∃ set,
        IsFirst (fun s : AmfInfo => ∃ amf ∈ s.amfList, ServesNssai C req amf.2)
          cfg.amfInfoList set ∧
        out.2 = { auth with
          targetAmfSet := some set.targetAmfSet
          nrfAmfSet := some set.nrfAmfSet
          nrfAmfSetNfMgtUri := some set.nrfAmfSetMgt
          candidateAmfList :=
            some ((set.amfList.filter fun amf => ServesNssai C req amf.2).map Prod.fst) }) ∧
      (out.1 = false → out.2 = auth) := by
  unfold getValidAmfset
  by_cases hserved : ∃ set ∈ cfg.amfInfoList, HasServingAmf C req set
  · obtain ⟨set, hset⟩ := exists_isFirst_iff.mpr hserved
    rw [amfSetLoop_of_isFirst hset]
    refine ⟨iff_of_true rfl hserved, fun _ => ⟨set, hset, ?_⟩, nofun⟩
    rw [servingAmfs_eq_filter]
    rfl
  · have hnone : ∀ set ∈ cfg.amfInfoList, ¬HasServingAmf C req set :=
      fun set hset h => hserved ⟨set, hset, h⟩
    rw [amfSetLoop_of_forall_not hnone]
    exact ⟨iff_of_false nofun hserved, nofun, fun _ => rfl⟩

/-! ## PDU sessions -/

/-- `NON_ROAMING` has the value `ROAMING_IND_NON_ROAMING`, and no other enumerator
    has. -/
structure Common.RoamingValues (C : Common) : Prop where
  nonRoaming : C.roamingIndicationValue .nonRoaming = roamingIndNonRoaming
  injective : Function.Injective C.roamingIndicationValue

theorem sampleCommon_roamingValues : Common.RoamingValues sampleCommon where
  nonRoaming := rfl
  injective a b h := by
    cases a <;> cases b <;> first | rfl | exact absurd h (by decide)

variable {C}

theorem nonRoaming_iff (hC : Common.RoamingValues C) {si : SliceInfoForPDUSession}
    {home : PlmnId} :
    NonRoaming C si home ↔ si.roamingIndication = .nonRoaming ∧ home.mcc = "" := by
  constructor
  · rintro ⟨hind, hhome⟩
    exact ⟨hC.injective (hind.trans hC.nonRoaming.symm), hhome⟩
  · rintro ⟨hind, hhome⟩
    refine ⟨?_, hhome⟩
    rw [hind, hC.nonRoaming]

/-- The PDU-session handler: 503 on a roaming indication or a home PLMN, 400 on a TAI
    that is not configured, 400 without an instance for the S-NSSAI, and else 200 with
    the first such instance. Only in the last case it writes, and only that. -/
theorem pdu_session_decision_order (hC : Common.RoamingValues C) (si : SliceInfoForPDUSession)
    (tai : Tai) (home : PlmnId) (features : String) (httpCode : ℤ) (httpVersion : ℕ)
    (auth : AuthorizedNetworkSliceInfo) :
    let out := handleSliceInfoForPduSession C cfg si tai home features httpCode httpVersion auth
    let roams := si.roamingIndication ≠ .nonRoaming ∨ home.mcc ≠ ""
    let refusedTai := tai.tac ≠ "" ∧ ¬TaConfigured cfg tai
    let hasNsi := ∃ item ∈ cfg.nsiInfoList, Matches C si.sNssai item.snssai
    (roams → out = ⟨false, HttpStatusCode.serviceUnavailable, auth⟩) ∧
      (¬roams → refusedTai → out = ⟨false, HttpStatusCode.badRequest, auth⟩) ∧
      (¬roams → ¬refusedTai → ¬hasNsi → out = ⟨false, HttpStatusCode.badRequest, auth⟩) ∧
      (¬roams → ¬refusedTai → hasNsi → ∃ item,
        IsFirst (fun i : NsiInfo => Matches C si.sNssai i.snssai) cfg.nsiInfoList item ∧
        out = ⟨true, HttpStatusCode.ok, { auth with nsiInformation := some item.nsiInfo }⟩) := by
  intro out roams refusedTai hasNsi
  have hroams : roams ↔ ¬NonRoaming C si home := by
    rw [nonRoaming_iff hC, not_and_or]
  have htai : refusedTai ↔ ¬TaAuthorised cfg tai := by
    rw [TaAuthorised, not_or]
  rw [hroams, htai, not_not, not_not]
  refine ⟨?_, ?_, ?_, ?_⟩
  · intro hroam
    exact (PduSessionDecides.notSupported hroam).handle_eq features httpCode httpVersion auth
  · intro hroam hta
    exact (PduSessionDecides.taNotAuthorised hroam hta).handle_eq features httpCode httpVersion auth
  · intro hroam hta hnone
    have hnsi : ∀ item ∈ cfg.nsiInfoList, ¬Matches C si.sNssai item.snssai :=
      fun item hitem h => hnone ⟨item, hitem, h⟩
    exact (PduSessionDecides.noNsi hroam hta hnsi).handle_eq features httpCode httpVersion auth
  · intro hroam hta hsome
    obtain ⟨item, hitem⟩ := exists_isFirst_iff.mpr hsome
    have hout := (PduSessionDecides.granted hroam hta hitem).handle_eq features httpCode
      httpVersion auth
    exact ⟨item, hitem, hout⟩

/-- A configured tracking area, and instances for SST 131 with an SD, for SST 131 without one
    and for SST 222. -/
def sessionConfig : NssfConfig where
  taInfoList := [{ tai := ⟨⟨"208", "95"⟩, "1"⟩ }, { tai := ⟨⟨"208", "95"⟩, "2"⟩ }]
  nsiInfoList := [⟨⟨131, some "a"⟩, { nrfId := "nrf-a" }⟩, ⟨⟨131, none⟩, { nrfId := "nrf-b" }⟩,
    ⟨⟨222, none⟩, { nrfId := "nrf-c" }⟩]

/-- A session for SST 131 without an SD, in the second area and in one that is not there. -/
theorem pdu_session_decision_order_sample :
    let si : SliceInfoForPDUSession := { sNssai := ⟨131, none⟩, roamingIndication := .nonRoaming }
    (∃ item, IsFirst (fun i : NsiInfo => Matches sampleCommon ⟨131, none⟩ i.snssai)
        sessionConfig.nsiInfoList item ∧
      handleSliceInfoForPduSession sampleCommon sessionConfig si ⟨⟨"208", "95"⟩, "2"⟩ {} "" 0 1 {} =
        ⟨true, HttpStatusCode.ok, { nsiInformation := some item.nsiInfo }⟩) ∧
      handleSliceInfoForPduSession sampleCommon sessionConfig si ⟨⟨"208", "95"⟩, "3"⟩ {} "" 0 1 {} =
        ⟨false, HttpStatusCode.badRequest, {}⟩ := by
  intro si
  have hroams : ¬(si.roamingIndication ≠ .nonRoaming ∨ ({} : PlmnId).mcc ≠ "") := by decide
  obtain ⟨-, -, -, hgranted⟩ := pdu_session_decision_order sessionConfig sampleCommon_roamingValues
    si ⟨⟨"208", "95"⟩, "2"⟩ {} "" 0 1 {}
  obtain ⟨-, hrefused, -⟩ := pdu_session_decision_order sessionConfig sampleCommon_roamingValues
    si ⟨⟨"208", "95"⟩, "3"⟩ {} "" 0 1 {}
  exact ⟨hgranted hroams (by decide) (by decide), hrefused hroams (by decide)⟩

theorem Matches.refl (s : Snssai) : Matches C s s := compareSnssai_iff.mpr ⟨rfl, fun _ _ => rfl⟩

/-- When an instance is configured for the very S-NSSAI requested, the handler returns
    the first instance whose S-NSSAI matches. That one has the requested SST and, from
    the bound on, the requested SD; and it is the first exact one unless one that only
    matches stands before it. -/
theorem nsi_first_match {si : SliceInfoForPDUSession} {tai : Tai} {home : PlmnId}
    (hroam : NonRoaming C si home) (hta : TaAuthorised cfg tai)
    (hexact : ∃ item ∈ cfg.nsiInfoList, item.snssai = si.sNssai) (features : String)
    (httpCode : ℤ) (httpVersion : ℕ) (auth : AuthorizedNetworkSliceInfo) :
    ∃ item, IsFirst (fun i : NsiInfo => Matches C si.sNssai i.snssai) cfg.nsiInfoList item ∧
      handleSliceInfoForPduSession C cfg si tai home features httpCode httpVersion auth =
        ⟨true, HttpStatusCode.ok, { auth with nsiInformation := some item.nsiInfo }⟩ ∧
      item.snssai.sst = si.sNssai.sst ∧
      (C.sstMaxStandardizedValue ≤ si.sNssai.sst → SameSd C si.sNssai.sd item.snssai.sd) ∧
      ∀ pre exact post, cfg.nsiInfoList = pre ++ exact :: post → exact.snssai = si.sNssai →
        (∀ i ∈ pre, ¬Matches C si.sNssai i.snssai) → item = exact := by
  have hmatch : ∃ item ∈ cfg.nsiInfoList, Matches C si.sNssai item.snssai := by
    obtain ⟨item, hitem, heq⟩ := hexact
    refine ⟨item, hitem, ?_⟩
    rw [heq]
    exact Matches.refl si.sNssai
  obtain ⟨item, hitem⟩ := exists_isFirst_iff.mpr hmatch
  have hout := (PduSessionDecides.granted hroam hta hitem).handle_eq features httpCode
    httpVersion auth
  obtain ⟨hsst, hsd⟩ := Matches.sameSd hitem.holds
  refine ⟨item, hitem, hout, hsst.symm, hsd, ?_⟩
  intro pre exact post hlist heq hpre
  have hfirst :
      IsFirst (fun i : NsiInfo => Matches C si.sNssai i.snssai) cfg.nsiInfoList exact := by
    refine ⟨pre, post, hlist, ?_, hpre⟩
    show Matches C si.sNssai exact.snssai
    rw [heq]
    exact Matches.refl si.sNssai
  exact hitem.unique hfirst

/-- A request for SST 1 with SD 000001. -/
def sampleSession : SliceInfoForPDUSession where
  sNssai := ⟨1, some "000001"⟩
  roamingIndication := .nonRoaming

/-- Instances for SST 1: one without an SD, then one with SD 000001. -/
def twoNsiConfig : NssfConfig where
  nsiInfoList := [⟨⟨1, none⟩, { nrfId := "nrf-a" }⟩, ⟨⟨1, some "000001"⟩, { nrfId := "nrf-b" }⟩]

theorem nsi_first_match_sample :
    ∃ item, IsFirst (fun i : NsiInfo => Matches sampleCommon sampleSession.sNssai i.snssai)
      twoNsiConfig.nsiInfoList item := by
  have hroam : NonRoaming sampleCommon sampleSession {} := ⟨rfl, rfl⟩
  have hta : TaAuthorised twoNsiConfig {} := Or.inl rfl
  obtain ⟨item, hitem, -⟩ := nsi_first_match twoNsiConfig hroam hta
    ⟨_, List.mem_cons_of_mem _ List.mem_cons_self, rfl⟩ "" 0 1 {}
  exact ⟨item, hitem⟩

/-- The request passes the checks and its S-NSSAI is configured, but the instance
    returned is the one without an SD. -/
theorem nsi_not_exact :
    NonRoaming sampleCommon sampleSession {} ∧ TaAuthorised twoNsiConfig {} ∧
      (handleSliceInfoForPduSession sampleCommon twoNsiConfig sampleSession {} {} "" 0 1
        {}).authSliceInfo.nsiInformation = some { nrfId := "nrf-a" } ∧
      IsFirst (fun i : NsiInfo => i.snssai = sampleSession.sNssai) twoNsiConfig.nsiInfoList
        ⟨⟨1, some "000001"⟩, { nrfId := "nrf-b" }⟩ := by
  refine ⟨⟨rfl, rfl⟩, Or.inl rfl, by decide, ?_⟩
  exact ⟨[⟨⟨1, none⟩, { nrfId := "nrf-a" }⟩], [], rfl, rfl, by decide⟩

/-! ## Failed registrations -/

variable (C)

/-- A registration that fails has written nothing, or the rejected list, when nothing
    requested is subscribed, or the Allowed NSSAI, when something is and no AMF set
    serves the request; in these two cases the status is 403. -/
theorem failed_registration_writes (si : SliceInfoForRegistration) (tai : Tai) (home : PlmnId)
    (features : String) (httpCode : ℤ) (httpVersion : ℕ) (auth : AuthorizedNetworkSliceInfo)
    (hfail : (handleSliceInfoForRegistration C cfg si tai home features httpCode httpVersion
      auth).result = false) :
    let out := handleSliceInfoForRegistration C cfg si tai home features httpCode httpVersion auth
    out.authSliceInfo = auth ∨
      ∃ req sub, si.requestedNssai = some req ∧ si.subscribedNssai = some sub ∧
        out.httpCode = HttpStatusCode.forbidden ∧
        (((∀ r ∈ req, ¬Subscribed C sub r) ∧
            out.authSliceInfo = { auth with rejectedNssaiInPlmn := some req }) ∨
          ((∃ r ∈ req, Subscribed C sub r) ∧
            (∀ set ∈ cfg.amfInfoList, ¬HasServingAmf C req set) ∧
            out.authSliceInfo =
              withAllowed (req.filter fun r => Subscribed C sub r) auth)) := by
  obtain ⟨v, hv⟩ := exists_registrationDecides C cfg si tai home
  rw [hv.handle_eq] at hfail ⊢
  cases hv with
  | notSupported => exact Or.inl rfl
  | taNotAuthorised => exact Or.inl rfl
  | undecided => exact absurd hfail (by simp [RegistrationVerdict.outcome])
  | notInPlmn _ _ hreq hsub hmatch =>
    exact Or.inr ⟨_, _, hreq, hsub, rfl, Or.inl ⟨hmatch, rfl⟩⟩
  | @noAmfSet _ _ req sub hreq hsub hmatch hamf =>
    refine Or.inr ⟨req, sub, hreq, hsub, rfl, Or.inr ⟨hmatch, hamf, ?_⟩⟩
    rw [← matchedSnssai_eq_filter]
    rfl
  | granted => exact absurd hfail (by simp [RegistrationVerdict.outcome])

/-- No AMF serves a repeated 222 together with 1, of which 222 alone is subscribed. -/
theorem failed_registration_writes_sample :
    let si := registrationFor [⟨222, none⟩, ⟨1, none⟩, ⟨222, none⟩] [⟨131, none⟩, ⟨222, none⟩]
    (handleSliceInfoForRegistration sampleCommon twoSetConfig si {} {} "" 0 1 {}).authSliceInfo =
      withAllowed [⟨222, none⟩, ⟨222, none⟩] {} := by
  intro si
  rcases failed_registration_writes sampleCommon twoSetConfig si {} {} "" 0 1 {} (by decide) with
    h | ⟨_, _, hreq, hsub, -, ⟨hnone, -⟩ | ⟨-, -, h⟩⟩
  · exact absurd h (by decide)
  · cases hreq
    cases hsub
    exact absurd (by decide) (hnone ⟨222, none⟩ List.mem_cons_self)
  · cases hreq
    cases hsub
    rw [h]
    decide

/-- A UE asks for SST 222, which it is subscribed to, and there is no AMF set: the
    handler fails, with 222 in the Allowed NSSAI. -/
theorem allowed_left_by_failure :
    let out := handleSliceInfoForRegistration sampleCommon {}
      (registrationFor [⟨222, none⟩] [⟨222, none⟩]) {} {} "" 0 1 {}
    out.result = false ∧
      out.authSliceInfo.allowedNssaiList = some [⟨[⟨⟨222, none⟩⟩], ._3gppAccess⟩] := by
  decide

end OaiNssf.SliceSelect
