import OaiNssf.Selection.Verdict

/-!
# What a registration selection grants

Properties of `handle_slice_info_for_registration` that a consumer of the answer
relies on.

* `registration_ok_sound`: under status 200 the checks have passed, the Allowed
  NSSAI is the subscribed part of the request, and the target AMF set serves it.
* `registration_ok_iff_requested_served`: past the checks, status 200 is reached
  exactly when something requested is subscribed and one AMF serves the whole
  requested list.
* `allowed_subscribed_upto_sd`: an allowed S-NSSAI is a subscribed one, up to the
  SD for a standardized SST.
* `allowed_rejected_partition_iff`: the answer accounts for every requested
  S-NSSAI exactly when all of them are subscribed.
-/

namespace OaiNssf.SliceSelect

open Coverage

variable (C : Common) (cfg : NssfConfig) (si : SliceInfoForRegistration) (tai : Tai)
  (home : PlmnId) (features : String) (httpVersion : ℕ)

/-- Values for the constants of the submodule, used in the instances below. -/
def sampleCommon : Common where
  sstMaxStandardizedValue := 127
  unsetSd := ""
  roamingIndicationValue
    | .invalidValue => 0
    | .nonRoaming => 1
    | .localBreakout => 2
    | .homeRoutedRoaming => 3

/-- One AMF set with one AMF, whose one availability entry supports `offers`. -/
def oneAmfConfig (offers : List ExtSnssai) : NssfConfig where
  amfInfoList :=
    [{ targetAmfSet := "208-95-128-01", nrfAmfSet := "http://nrf/disc",
       nrfAmfSetMgt := "http://nrf/nfm",
       amfList := [("amf-1", [{ supportedSnssaiList := offers }])] }]

/-- Two AMF sets. The one AMF of the first supports SST 222, the two AMFs of the second 222 and
    131, in one availability entry and in two. -/
def twoSetConfig : NssfConfig where
  amfInfoList :=
    [ { targetAmfSet := "208-95-128-01", nrfAmfSet := "http://nrf-1/disc",
        nrfAmfSetMgt := "http://nrf-1/nfm",
        amfList := [("amf-1", [{ supportedSnssaiList := [⟨222, none⟩] }])] },
      { targetAmfSet := "208-95-128-02", nrfAmfSet := "http://nrf-2/disc",
        nrfAmfSetMgt := "http://nrf-2/nfm",
        amfList :=
          [ ("amf-2", [{ supportedSnssaiList := [⟨131, none⟩, ⟨222, none⟩] }]),
            ("amf-3", [{ supportedSnssaiList := [⟨222, none⟩] },
              { supportedSnssaiList := [⟨131, none⟩] }]) ] } ]

/-- A registration request for `requested` of a UE subscribed to `subscribed`. -/
def registrationFor (requested subscribed : List Snssai) : SliceInfoForRegistration where
  requestedNssai := some requested
  subscribedNssai := some (subscribed.map SubscribedSnssai.mk)

instance (sub : List SubscribedSnssai) (r : Snssai) : Decidable (Subscribed C sub r) :=
  inferInstanceAs (Decidable (∃ s ∈ sub, Matches C r s.subscribedSnssai))

theorem matchedSnssai_eq_filter (sub : List SubscribedSnssai) (req : List Snssai) :
    matchedSnssai C sub req = req.filter fun r => Subscribed C sub r := by
  unfold matchedSnssai
  exact List.filter_congr fun r _ => by
    rw [Bool.eq_iff_iff, snssaiMatched_iff, decide_eq_true_iff]

/-! ## Soundness -/

/-- The request reaches status 200 only with the verdict `granted`. -/
theorem granted_of_ok {v : RegistrationVerdict} {httpCode : ℤ} {auth : AuthorizedNetworkSliceInfo}
    (hcode : httpCode ≠ HttpStatusCode.ok)
    (hok : (v.outcome httpCode auth).httpCode = HttpStatusCode.ok) :
    ∃ allowed set candidates, v = .granted allowed set candidates := by
  cases v with
  | granted allowed set candidates => exact ⟨allowed, set, candidates, rfl⟩
  | taNotAuthorised => exact absurd hok hcode
  | undecided => exact absurd hok hcode
  | _ => simp [RegistrationVerdict.outcome] at hok

/-- Status 200 for a registration: no mapping and no home PLMN, an authorised
    TAI, both lists set, an Allowed NSSAI that is the non-empty subscribed part of
    the request, and candidate AMFs of one configured set that each serve it. -/
theorem registration_ok_sound
    (hok : (handleSliceInfoForRegistration C cfg si tai home features 0 httpVersion {}).httpCode =
      HttpStatusCode.ok) :
    let auth :=
      (handleSliceInfoForRegistration C cfg si tai home features 0 httpVersion {}).authSliceInfo
    InScope si home ∧ TaAuthorised cfg tai ∧
      ∃ req sub, si.requestedNssai = some req ∧ si.subscribedNssai = some sub ∧
        ∃ allowed, allowed ≠ [] ∧ allowed = (req.filter fun r => Subscribed C sub r) ∧
          auth.allowedNssaiList = some [⟨allowed.map AllowedSnssai.mk, ._3gppAccess⟩] ∧
          ∃ set ∈ cfg.amfInfoList, ∃ candidates, candidates ≠ [] ∧
            auth.targetAmfSet = some set.targetAmfSet ∧
            auth.nrfAmfSet = some set.nrfAmfSet ∧
            auth.nrfAmfSetNfMgtUri = some set.nrfAmfSetMgt ∧
            auth.candidateAmfList = some candidates ∧
            ∀ nfId ∈ candidates, ∃ amf ∈ set.amfList, amf.1 = nfId ∧
              ServesNssai C allowed amf.2 := by
  obtain ⟨v, hv⟩ := exists_registrationDecides C cfg si tai home
  rw [hv.handle_eq] at hok ⊢
  obtain ⟨allowed, set, candidates, rfl⟩ := granted_of_ok (by decide) hok
  cases hv with
  | @granted hscope hta req sub hreq hsub hmatch set hamf =>
    refine ⟨hscope, hta, req, sub, hreq, hsub, matchedSnssai C sub req,
      matchedSnssai_ne_nil_iff.mpr hmatch, matchedSnssai_eq_filter C sub req, rfl, set, hamf.mem,
      servingAmfs C req set, servingAmfs_ne_nil_iff.mpr hamf.holds, rfl, rfl, rfl, rfl, ?_⟩
    intro nfId hmem
    obtain ⟨amf, hamf', hserves, hid⟩ := mem_servingAmfs.mp hmem
    exact ⟨amf, hamf', hid, hserves.anti (matchedSnssai_subset sub req)⟩

/-- A UE subscribed to SST 222 asks for 222 twice and for 131. -/
theorem registration_ok_sound_sample :
    let si := registrationFor [⟨222, none⟩, ⟨131, none⟩, ⟨222, none⟩] [⟨222, none⟩]
    let auth := (handleSliceInfoForRegistration sampleCommon twoSetConfig si {} {} "" 0 1
      {}).authSliceInfo
    InScope si {} ∧ ∃ allowed, allowed ≠ [] ∧
      auth.allowedNssaiList = some [⟨allowed.map AllowedSnssai.mk, ._3gppAccess⟩] ∧
      ∃ set ∈ twoSetConfig.amfInfoList, ∃ candidates, candidates ≠ [] ∧
        auth.targetAmfSet = some set.targetAmfSet ∧ auth.candidateAmfList = some candidates ∧
        ∀ nfId ∈ candidates, ∃ amf ∈ set.amfList, amf.1 = nfId ∧
          ServesNssai sampleCommon allowed amf.2 := by
  intro si auth
  obtain ⟨hscope, -, req, sub, -, -, allowed, hne, -, hallowed, set, hset, candidates, hsome,
    htarget, -, -, hcandidates, hserve⟩ :=
    registration_ok_sound sampleCommon twoSetConfig si {} {} "" 1 (by decide)
  exact ⟨hscope, allowed, hne, hallowed, set, hset, candidates, hsome, htarget, hcandidates, hserve⟩

/-! ## Completeness -/

/-- Past the checks, and with both lists set, the request is granted exactly when
    some requested S-NSSAI is subscribed and one AMF serves the requested list,
    rejected S-NSSAIs included. -/
theorem registration_ok_iff_requested_served {req : List Snssai} {sub : List SubscribedSnssai}
    (hscope : InScope si home) (hta : TaAuthorised cfg tai) (hreq : si.requestedNssai = some req)
    (hsub : si.subscribedNssai = some sub) (httpCode : ℤ) (auth : AuthorizedNetworkSliceInfo) :
    let out := handleSliceInfoForRegistration C cfg si tai home features httpCode httpVersion auth
    (out.httpCode = HttpStatusCode.ok ∧
        ∃ candidates, out.authSliceInfo.candidateAmfList = some candidates ∧ candidates ≠ []) ↔
      (∃ r ∈ req, Subscribed C sub r) ∧ ∃ set ∈ cfg.amfInfoList, HasServingAmf C req set := by
  by_cases hmatch : ∃ r ∈ req, Subscribed C sub r
  · by_cases hamf : ∃ set ∈ cfg.amfInfoList, HasServingAmf C req set
    · obtain ⟨set, hset⟩ := exists_isFirst_iff.mpr hamf
      rw [(RegistrationDecides.granted hscope hta hreq hsub hmatch hset).handle_eq]
      exact iff_of_true ⟨rfl, _, rfl, servingAmfs_ne_nil_iff.mpr hset.holds⟩ ⟨hmatch, hamf⟩
    · have hnone : ∀ set ∈ cfg.amfInfoList, ¬HasServingAmf C req set :=
        fun set hset h => hamf ⟨set, hset, h⟩
      rw [(RegistrationDecides.noAmfSet hscope hta hreq hsub hmatch hnone).handle_eq]
      exact iff_of_false (by simp [RegistrationVerdict.outcome]) fun h => hamf h.2
  · have hnone : ∀ r ∈ req, ¬Subscribed C sub r := fun r hr h => hmatch ⟨r, hr, h⟩
    rw [(RegistrationDecides.notInPlmn hscope hta hreq hsub hnone).handle_eq]
    exact iff_of_false (by simp [RegistrationVerdict.outcome]) fun h => hmatch h.1

/-- The first AMF set does not serve 131, the second does. -/
theorem registration_ok_iff_requested_served_sample :
    (∃ r ∈ [(⟨222, none⟩ : Snssai), ⟨131, none⟩, ⟨222, none⟩],
        Subscribed sampleCommon [⟨⟨222, none⟩⟩] r) ∧
      ∃ set ∈ twoSetConfig.amfInfoList,
        HasServingAmf sampleCommon [⟨222, none⟩, ⟨131, none⟩, ⟨222, none⟩] set :=
  (registration_ok_iff_requested_served sampleCommon twoSetConfig
    (registrationFor [⟨222, none⟩, ⟨131, none⟩, ⟨222, none⟩] [⟨222, none⟩]) {} {} "" 1
    ⟨rfl, rfl, rfl⟩ (Or.inl rfl) rfl rfl 0 {}).mp ⟨by decide, ["amf-2"], by decide, by decide⟩

/-- A UE subscribed to SST 222 asks for 222 and 131. The one AMF supports 222,
    which is all that is allowed, and the request is refused. -/
theorem rejected_snssai_decides :
    InScope (registrationFor [⟨222, none⟩, ⟨131, none⟩] [⟨222, none⟩]) {} ∧
      TaAuthorised (oneAmfConfig [⟨222, none⟩]) {} ∧
      (∃ r ∈ [(⟨222, none⟩ : Snssai), ⟨131, none⟩], Subscribed sampleCommon [⟨⟨222, none⟩⟩] r) ∧
      (∃ set ∈ (oneAmfConfig [⟨222, none⟩]).amfInfoList, HasServingAmf sampleCommon
        ([(⟨222, none⟩ : Snssai), ⟨131, none⟩].filter fun r =>
          Subscribed sampleCommon [⟨⟨222, none⟩⟩] r) set) ∧
      (handleSliceInfoForRegistration sampleCommon (oneAmfConfig [⟨222, none⟩])
        (registrationFor [⟨222, none⟩, ⟨131, none⟩] [⟨222, none⟩]) {} {} "" 0 1 {}).httpCode =
        HttpStatusCode.forbidden := by
  refine ⟨⟨rfl, rfl, rfl⟩, Or.inl rfl, by decide, ?_, by decide⟩
  refine ⟨_, List.mem_singleton.mpr rfl, ("amf-1", [{ supportedSnssaiList := [⟨222, none⟩] }]),
    by simp, anyValidAmf_iff.mp (by decide)⟩

/-! ## Allowed and subscribed S-NSSAIs -/

/-- The S-NSSAIs of the Allowed NSSAI. -/
def allowedSnssais (auth : AuthorizedNetworkSliceInfo) : List Snssai :=
  (auth.allowedNssaiList.getD []).flatMap fun allowed =>
    allowed.allowedSnssaiList.map AllowedSnssai.allowedSnssai

@[simp] theorem allowedSnssais_withAllowed (allowed : List Snssai)
    (auth : AuthorizedNetworkSliceInfo) : allowedSnssais (withAllowed allowed auth) = allowed := by
  simp [allowedSnssais, withAllowed, Function.comp_def]

@[simp] theorem allowedSnssais_withAmfSet (set : AmfInfo) (candidates : List String)
    (auth : AuthorizedNetworkSliceInfo) :
    allowedSnssais (withAmfSet set candidates auth) = allowedSnssais auth := rfl

/-- The SDs `sd` and `sd'` agree: the same presence and value, where an SD set to
    the value that `getSd()` returns for an unset one counts as unset. -/
def SameSd (sd sd' : Option String) : Prop :=
  sd = sd' ∨ (sd = none ∧ sd' = some C.unsetSd) ∨ (sd = some C.unsetSd ∧ sd' = none)

theorem sameSd_of_getSd_eq {a b : Snssai} (h : C.getSd a = C.getSd b) : SameSd C a.sd b.sd := by
  obtain ⟨sst, sd⟩ := a
  obtain ⟨sst', sd'⟩ := b
  unfold Common.getSd at h
  cases sd with
  | none =>
    cases sd' with
    | none => exact Or.inl rfl
    | some y => exact Or.inr (Or.inl ⟨rfl, congrArg some h.symm⟩)
  | some x =>
    cases sd' with
    | none => exact Or.inr (Or.inr ⟨congrArg some h, rfl⟩)
    | some y => exact Or.inl (congrArg some h)

/-- A match agrees in the SST and, from the bound on, in the SD. -/
theorem Matches.sameSd {C : Common} {a b : Snssai} (h : Matches C a b) :
    a.sst = b.sst ∧ (C.sstMaxStandardizedValue ≤ a.sst → SameSd C a.sd b.sd) := by
  obtain ⟨hsst, hsd⟩ := compareSnssai_iff.mp h
  refine ⟨hsst, fun hmax => ?_⟩
  by_cases hset : a.sd.isSome ∨ b.sd.isSome
  · exact sameSd_of_getSd_eq C (hsd hset hmax)
  · have hnone : a.sd = none ∧ b.sd = none := by simpa [not_or] using hset
    exact Or.inl (hnone.1.trans hnone.2.symm)

/-- The handler leaves the Allowed NSSAI alone or writes S-NSSAIs of the request
    that are subscribed. -/
theorem allowed_written_subscribed (httpCode : ℤ) (auth : AuthorizedNetworkSliceInfo) :
    let out := handleSliceInfoForRegistration C cfg si tai home features httpCode httpVersion auth
    out.authSliceInfo.allowedNssaiList = auth.allowedNssaiList ∨
      ∀ s ∈ allowedSnssais out.authSliceInfo, Subscribed C (si.subscribedNssai.getD []) s := by
  obtain ⟨v, hv⟩ := exists_registrationDecides C cfg si tai home
  rw [hv.handle_eq]
  cases hv with
  | notSupported => exact Or.inl rfl
  | taNotAuthorised => exact Or.inl rfl
  | undecided => exact Or.inl rfl
  | notInPlmn => exact Or.inl rfl
  | noAmfSet _ _ _ hsub =>
    right
    intro s hs
    simp only [RegistrationVerdict.outcome, allowedSnssais_withAllowed] at hs
    rw [hsub]
    exact (mem_matchedSnssai.mp hs).2
  | granted _ _ _ hsub =>
    right
    intro s hs
    simp only [RegistrationVerdict.outcome, allowedSnssais_withAmfSet,
      allowedSnssais_withAllowed] at hs
    rw [hsub]
    exact (mem_matchedSnssai.mp hs).2

/-- Every S-NSSAI written to the Allowed NSSAI has the SST of a subscribed one
    and, unless that SST is below the bound, its SD as well. -/
theorem allowed_subscribed_upto_sd (httpCode : ℤ) (auth : AuthorizedNetworkSliceInfo) :
    let out := handleSliceInfoForRegistration C cfg si tai home features httpCode httpVersion auth
    out.authSliceInfo.allowedNssaiList = auth.allowedNssaiList ∨
      ∀ s ∈ allowedSnssais out.authSliceInfo,
        ∃ sub ∈ si.subscribedNssai.getD [], s.sst = sub.subscribedSnssai.sst ∧
          (C.sstMaxStandardizedValue ≤ s.sst → SameSd C s.sd sub.subscribedSnssai.sd) := by
  refine (allowed_written_subscribed C cfg si tai home features httpVersion httpCode auth).imp_right
    fun h s hs => ?_
  obtain ⟨sub, hmem, hmatch⟩ := h s hs
  exact ⟨sub, hmem, hmatch.sameSd⟩

/-- A UE subscribed to SST 1 with SD 000001 is allowed SST 1 with SD 000002. -/
theorem allowed_not_subscribed_value :
    let si := registrationFor [⟨1, some "000002"⟩] [⟨1, some "000001"⟩]
    let cfg := oneAmfConfig [⟨1, none⟩]
    let out := handleSliceInfoForRegistration sampleCommon cfg si {} {} "" 0 1 {}
    out.httpCode = HttpStatusCode.ok ∧
      allowedSnssais out.authSliceInfo = [⟨1, some "000002"⟩] ∧
      (⟨1, some "000002"⟩ : Snssai) ∉
        (si.subscribedNssai.getD []).map SubscribedSnssai.subscribedSnssai := by
  decide

/-! ## Allowed and rejected S-NSSAIs -/

/-- The Allowed NSSAI holds the subscribed occurrences of the request and the
    rejected list of the PLMN the others. -/
def PartitionsRequest (sub : List SubscribedSnssai) (req : List Snssai)
    (auth : AuthorizedNetworkSliceInfo) : Prop :=
  (allowedSnssais auth).Perm (req.filter fun r => Subscribed C sub r) ∧
    (auth.rejectedNssaiInPlmn.getD []).Perm (req.filter fun r => ¬Subscribed C sub r)

/-- Under status 200, allowed and rejected S-NSSAIs partition the request exactly
    when no requested S-NSSAI is to be rejected. -/
theorem allowed_rejected_partition_iff
    (hok : (handleSliceInfoForRegistration C cfg si tai home features 0 httpVersion {}).httpCode =
      HttpStatusCode.ok) :
    PartitionsRequest C (si.subscribedNssai.getD []) (si.requestedNssai.getD [])
        (handleSliceInfoForRegistration C cfg si tai home features 0 httpVersion {}).authSliceInfo ↔
      ∀ r ∈ si.requestedNssai.getD [], Subscribed C (si.subscribedNssai.getD []) r := by
  obtain ⟨v, hv⟩ := exists_registrationDecides C cfg si tai home
  rw [hv.handle_eq] at hok ⊢
  obtain ⟨allowed, set, candidates, rfl⟩ := granted_of_ok (by decide) hok
  cases hv with
  | @granted _ _ req sub hreq hsub _ set _ =>
    simp only [hreq, hsub, Option.getD_some]
    have hallowed : allowedSnssais (RegistrationVerdict.outcome 0 {}
        (.granted (matchedSnssai C sub req) set (servingAmfs C req set))).authSliceInfo =
        req.filter fun r => Subscribed C sub r := by
      rw [← matchedSnssai_eq_filter]
      simp [RegistrationVerdict.outcome]
    have hrejected : (RegistrationVerdict.outcome 0 {} (.granted (matchedSnssai C sub req) set
        (servingAmfs C req set))).authSliceInfo.rejectedNssaiInPlmn.getD [] = [] := rfl
    unfold PartitionsRequest
    rw [hallowed, hrejected]
    constructor
    · rintro ⟨-, hperm⟩ r hr
      by_contra hnot
      have hmem : r ∈ req.filter fun r => ¬Subscribed C sub r := by
        simpa using ⟨hr, hnot⟩
      rw [← hperm.nil_eq] at hmem
      exact absurd hmem List.not_mem_nil
    · intro hall
      refine ⟨List.Perm.refl _, ?_⟩
      rw [List.filter_eq_nil_iff.mpr fun r hr => by simpa using hall r hr]

/-- All of a request that names 222 twice is subscribed. -/
theorem allowed_rejected_partition_iff_sample :
    PartitionsRequest sampleCommon [⟨⟨131, none⟩⟩, ⟨⟨222, none⟩⟩]
      [⟨222, none⟩, ⟨131, none⟩, ⟨222, none⟩]
      (handleSliceInfoForRegistration sampleCommon twoSetConfig
        (registrationFor [⟨222, none⟩, ⟨131, none⟩, ⟨222, none⟩] [⟨131, none⟩, ⟨222, none⟩]) {} {}
        "" 0 1 {}).authSliceInfo :=
  (allowed_rejected_partition_iff sampleCommon twoSetConfig
    (registrationFor [⟨222, none⟩, ⟨131, none⟩, ⟨222, none⟩] [⟨131, none⟩, ⟨222, none⟩]) {} {} "" 1
    (by decide)).mpr (by decide)

/-- A UE subscribed to SST 222 asks for 222 and 131, and an AMF supports both:
    status 200, and 131 is neither allowed nor rejected. -/
theorem rejected_snssai_lost :
    let si := registrationFor [⟨222, none⟩, ⟨131, none⟩] [⟨222, none⟩]
    let out := handleSliceInfoForRegistration sampleCommon
      (oneAmfConfig [⟨222, none⟩, ⟨131, none⟩]) si {} {} "" 0 1 {}
    out.httpCode = HttpStatusCode.ok ∧
      ¬PartitionsRequest sampleCommon (si.subscribedNssai.getD []) (si.requestedNssai.getD [])
        out.authSliceInfo := by
  refine ⟨by decide, fun h => ?_⟩
  exact absurd h.2 (by decide)

end OaiNssf.SliceSelect
