import OaiNssf.Selection.Equivalence
import OaiNssf.Selection.Monotone

/-!
# Selections that follow one another

What a UE and an operator may rely on from one selection to the next.

* `reregistration_keeps_allowed`: a UE that asks for its Allowed NSSAI is allowed it again.
* `sessions_follow_registrations_iff`: when every Allowed S-NSSAI has a PDU session.
* `registration_without_amf`: the same registration when an AMF has been taken out.
-/

namespace OaiNssf.SliceSelect

open Coverage

variable {C : Common} {cfg : NssfConfig} {si : SliceInfoForRegistration} {tai : Tai}
  {home : PlmnId}

/-! ## Registering again -/

/-- A registration that is granted, and then repeated with the Allowed NSSAI as the
    requested one, is granted again: the Allowed NSSAI is the same, and the AMF set is the
    earlier one, with no fewer candidates, or one configured before it. -/
theorem reregistration_keeps_allowed (features : String) {httpCode : ℤ} (httpVersion : ℕ)
    (auth : AuthorizedNetworkSliceInfo) (hcode : httpCode ≠ HttpStatusCode.ok)
    (hok : (handleSliceInfoForRegistration C cfg si tai home features httpCode httpVersion
      auth).httpCode = HttpStatusCode.ok) :
    let first := handleSliceInfoForRegistration C cfg si tai home features httpCode httpVersion auth
    let again := handleSliceInfoForRegistration C cfg
      { si with requestedNssai := some (allowedSnssais first.authSliceInfo) } tai home features
      httpCode httpVersion auth
    again.httpCode = HttpStatusCode.ok ∧
      again.authSliceInfo.allowedNssaiList = first.authSliceInfo.allowedNssaiList ∧
      ∃ before set after set' candidates candidates', cfg.amfInfoList = before ++ set :: after ∧
        first.authSliceInfo.targetAmfSet = some set.targetAmfSet ∧
        first.authSliceInfo.candidateAmfList = some candidates ∧
        again.authSliceInfo.targetAmfSet = some set'.targetAmfSet ∧
        again.authSliceInfo.candidateAmfList = some candidates' ∧
        (set' ∈ before ∨ set' = set ∧ candidates.Sublist candidates') := by
  intro first again
  obtain ⟨v, hv⟩ := exists_registrationDecides C cfg si tai home
  have hfirst : first = v.outcome httpCode auth := hv.handle_eq features httpCode httpVersion auth
  rw [hv.handle_eq] at hok
  obtain ⟨allowed, set, candidates, rfl⟩ := granted_of_ok hcode hok
  cases hv with
  | @granted hscope hta req sub hreq hsub hmatch set hamf =>
    have hallowed : allowedSnssais first.authSliceInfo = matchedSnssai C sub req := by
      rw [hfirst]
      simp [RegistrationVerdict.outcome]
    -- everything in the Allowed NSSAI is subscribed, and fewer S-NSSAIs are served
    have hidem : matchedSnssai C sub (matchedSnssai C sub req) = matchedSnssai C sub req := by
      unfold matchedSnssai
      rw [List.filter_filter]
      simp only [Bool.and_self]
    have hmatch' : ∃ r ∈ matchedSnssai C sub req, Subscribed C sub r := by
      obtain ⟨r, hr, hr'⟩ := hmatch
      exact ⟨r, mem_matchedSnssai.mpr ⟨hr, hr'⟩, hr'⟩
    obtain ⟨before, after, set', hsets, hmem, hset'⟩ := exists_isFirst_of_weaker hamf
      (q := HasServingAmf C (matchedSnssai C sub req))
      (fun s _ hs => hs.anti (matchedSnssai_subset sub req))
    have hscope' : InScope { si with requestedNssai := some (matchedSnssai C sub req) } home :=
      hscope.congr rfl rfl
    have hagain : again = (RegistrationVerdict.granted (matchedSnssai C sub req) set'
        (servingAmfs C (matchedSnssai C sub req) set')).outcome httpCode auth := by
      have hdecides := RegistrationDecides.granted hscope' hta rfl hsub hmatch' hset'
      rw [hidem] at hdecides
      rw [show again = handleSliceInfoForRegistration C cfg
        { si with requestedNssai := some (matchedSnssai C sub req) } tai home features httpCode
        httpVersion auth from by rw [← hallowed]]
      exact hdecides.handle_eq features httpCode httpVersion auth
    refine ⟨by rw [hagain]; rfl, by rw [hagain, hfirst]; rfl, before, set, after, set',
      servingAmfs C req set, servingAmfs C (matchedSnssai C sub req) set', hsets,
      by rw [hfirst]; rfl, by rw [hfirst]; rfl, by rw [hagain]; rfl, by rw [hagain]; rfl, ?_⟩
    rcases List.mem_append.mp hmem with hbefore | hlast
    · exact Or.inl hbefore
    · rw [List.mem_singleton.mp hlast]
      refine Or.inr ⟨rfl, ?_⟩
      apply List.Sublist.map
      apply List.monotone_filter_right
      intro amf hamf'
      rw [anyValidAmf_iff] at hamf' ⊢
      exact hamf'.anti (matchedSnssai_subset sub req)

/-- A UE asks for two S-NSSAIs, is subscribed to one, and then asks for this one. -/
theorem reregistration_keeps_allowed_sample :
    let si := registrationFor [⟨222, some "123"⟩, ⟨1, none⟩] [⟨222, some "123"⟩]
    let cfg := oneAmfConfig [⟨222, some "123"⟩, ⟨1, none⟩]
    let first := handleSliceInfoForRegistration sampleCommon cfg si {} {} "" 0 1 {}
    let again := handleSliceInfoForRegistration sampleCommon cfg
      { si with requestedNssai := some (allowedSnssais first.authSliceInfo) } {} {} "" 0 1 {}
    again.authSliceInfo.allowedNssaiList = first.authSliceInfo.allowedNssaiList :=
  (reregistration_keeps_allowed "" 1 {} (by decide) (by decide)).2.1

/-! ## From the registration to the PDU sessions -/

/-- Whatever an AMF supports, some network slice instance is configured for it. -/
def Coherent (C : Common) (cfg : NssfConfig) : Prop :=
  ∀ set ∈ cfg.amfInfoList, ∀ amf ∈ set.amfList, ∀ data ∈ amf.2,
    ∀ e ∈ data.supportedSnssaiList, ∃ item ∈ cfg.nsiInfoList, Matches C (nssaiTmp e) item.snssai

/-- An S-NSSAI that an AMF serves has an instance, if the configuration is coherent. -/
theorem Coherent.exists_nsi (h : Coherent C cfg) {req : List Snssai} {set : AmfInfo}
    (hset : set ∈ cfg.amfInfoList) (hserving : HasServingAmf C req set) {r : Snssai}
    (hr : r ∈ req) : ∃ item ∈ cfg.nsiInfoList, Matches C r item.snssai := by
  obtain ⟨amf, hamf, offers, hoffers, hcovers⟩ := hserving
  obtain ⟨data, hdata, rfl⟩ := List.mem_map.mp hoffers
  obtain ⟨e, he, hsupports⟩ := hcovers r hr
  obtain ⟨item, hitem, hmatches⟩ := h set hset amf hamf data hdata e he
  exact ⟨item, hitem, hsupports.trans hmatches⟩

/-- The registration of a UE that is subscribed to what an AMF supports, and asks for it. -/
theorem registrationFor_granted {set : AmfInfo} (hset : set ∈ cfg.amfInfoList)
    {amf : String × List SupportedNssaiAvailabilityData} (hamf : amf ∈ set.amfList)
    {data : SupportedNssaiAvailabilityData} (hdata : data ∈ amf.2) {e : ExtSnssai}
    (he : e ∈ data.supportedSnssaiList) :
    Grantable C cfg (registrationFor [nssaiTmp e] [nssaiTmp e]) {} {} [nssaiTmp e]
      [⟨nssaiTmp e⟩] where
  inScope := ⟨rfl, rfl, rfl⟩
  authorised := Or.inl rfl
  requested := rfl
  subscribed := rfl
  matched := ⟨_, List.mem_singleton_self _, _, List.mem_singleton_self _, Matches.refl _⟩
  served := by
    refine ⟨set, hset, amf, hamf, _, List.mem_map_of_mem hdata, ?_⟩
    intro r hr
    rw [List.mem_singleton.mp hr]
    exact ⟨e, he, Matches.refl _⟩

/-- After every granted registration, a session of the UE in its home network is granted for
    each Allowed S-NSSAI, from the same tracking area: that holds exactly of the
    configurations in which some instance is configured for whatever an AMF supports. -/
theorem sessions_follow_registrations_iff (hC : Common.RoamingValues C) (features : String)
    (httpVersion : ℕ) (cfg : NssfConfig) :
    (∀ si tai home,
      let out := handleSliceInfoForRegistration C cfg si tai home features 0 httpVersion {}
      out.httpCode = HttpStatusCode.ok → ∀ s ∈ allowedSnssais out.authSliceInfo,
        (handleSliceInfoForPduSession C cfg ⟨s, .nonRoaming⟩ tai home features 0 httpVersion
          {}).httpCode = HttpStatusCode.ok) ↔ Coherent C cfg := by
  constructor
  · intro h set hset amf hamf data hdata e he
    have hgrant : Grantable C cfg (registrationFor [nssaiTmp e] [nssaiTmp e]) {} {} [nssaiTmp e]
        [⟨nssaiTmp e⟩] := registrationFor_granted hset hamf hdata he
    obtain ⟨hok, hallowed⟩ := hgrant.outcome features 0 httpVersion {}
    have hmem : nssaiTmp e ∈ [nssaiTmp e].filter fun r => Subscribed C [⟨nssaiTmp e⟩] r := by
      refine List.mem_filter.mpr ⟨List.mem_singleton_self _, decide_eq_true ?_⟩
      exact ⟨_, List.mem_singleton_self _, Matches.refl _⟩
    have hsession := h _ {} {} hok (nssaiTmp e) (by rw [hallowed]; exact hmem)
    obtain ⟨w, hw⟩ := exists_pduSessionDecides C cfg ⟨nssaiTmp e, .nonRoaming⟩ {} {}
    rw [hw.handle_eq] at hsession
    cases hw with
    | notSupported => cases hsession
    | taNotAuthorised => cases hsession
    | noNsi => cases hsession
    | granted _ _ hnsi => exact ⟨_, hnsi.mem, hnsi.holds⟩
  · intro hcoherent si tai home out hok s hs
    obtain ⟨v, hv⟩ := exists_registrationDecides C cfg si tai home
    have hout : out = v.outcome 0 {} := hv.handle_eq features 0 httpVersion {}
    rw [hout] at hok hs
    obtain ⟨allowed, set, candidates, rfl⟩ := granted_of_ok (by decide) hok
    cases hv with
    | @granted hscope hta req sub _ _ _ set hamf =>
      have hreq : s ∈ req := by
        simp only [RegistrationVerdict.outcome, allowedSnssais_withAmfSet,
          allowedSnssais_withAllowed] at hs
        exact matchedSnssai_subset sub req hs
      obtain ⟨item, hitem⟩ :=
        exists_isFirst_iff.mpr (hcoherent.exists_nsi hamf.mem hamf.holds hreq)
      have hroam : NonRoaming C ⟨s, .nonRoaming⟩ home := ⟨hC.nonRoaming, hscope.noHomePlmn⟩
      rw [(PduSessionDecides.granted hroam hta hitem).handle_eq]
      rfl

/-- A configuration with one AMF, whose one S-NSSAI has an instance. -/
theorem sessions_follow_registrations_iff_sample :
    let cfg : NssfConfig :=
      { oneAmfConfig [⟨222, none⟩] with nsiInfoList := [{ snssai := ⟨222, none⟩ }] }
    (∀ si tai home,
      let out := handleSliceInfoForRegistration sampleCommon cfg si tai home "" 0 1 {}
      out.httpCode = HttpStatusCode.ok → ∀ s ∈ allowedSnssais out.authSliceInfo,
        (handleSliceInfoForPduSession sampleCommon cfg ⟨s, .nonRoaming⟩ tai home "" 0 1
          {}).httpCode = HttpStatusCode.ok) ↔ Coherent sampleCommon cfg :=
  sessions_follow_registrations_iff sampleCommon_roamingValues "" 1 _

/-! ## An AMF taken out -/

/-- The set without the AMF `nfId`. -/
def withoutAmf (nfId : String) (set : AmfInfo) : AmfInfo :=
  { set with amfList := set.amfList.filter fun amf => amf.1 ≠ nfId }

/-- The configuration without the AMF `nfId`. -/
def configWithoutAmf (nfId : String) (cfg : NssfConfig) : NssfConfig :=
  { cfg with amfInfoList := cfg.amfInfoList.map (withoutAmf nfId) }

theorem servingAmfs_withoutAmf (nfId : String) (req : List Snssai) (set : AmfInfo) :
    servingAmfs C req (withoutAmf nfId set) =
      (servingAmfs C req set).filter fun id => id ≠ nfId := by
  unfold servingAmfs withoutAmf
  rw [List.filter_map, List.filter_filter, List.filter_filter]
  simp only [Function.comp_def, Bool.and_comm]

theorem HasServingAmf.of_withoutAmf {nfId : String} {req : List Snssai} {set : AmfInfo}
    (h : HasServingAmf C req (withoutAmf nfId set)) : HasServingAmf C req set := by
  obtain ⟨amf, hamf, hserves⟩ := h
  exact ⟨amf, (List.mem_filter.mp hamf).1, hserves⟩

/-- The set that is selected is still the first one to serve the request when an AMF has been
    taken out, if another one of its AMFs serves it. -/
theorem isFirst_withoutAmf {nfId : String} {req : List Snssai} {sets : List AmfInfo}
    {set : AmfInfo} (h : IsFirst (HasServingAmf C req) sets set)
    (hleft : (servingAmfs C req set).filter (· ≠ nfId) ≠ []) :
    IsFirst (HasServingAmf C req) (sets.map (withoutAmf nfId)) (withoutAmf nfId set) := by
  obtain ⟨pre, post, rfl, -, hpre⟩ := h
  refine ⟨pre.map (withoutAmf nfId), post.map (withoutAmf nfId), by simp, ?_, ?_⟩
  · rw [← servingAmfs_ne_nil_iff, servingAmfs_withoutAmf]
    exact hleft
  · intro s hs hserving
    obtain ⟨s', hs', rfl⟩ := List.mem_map.mp hs
    exact hpre s' hs' hserving.of_withoutAmf

/-- A registration that is granted, and then repeated when an AMF has been taken out of the
    configuration: as long as another candidate is left, the answer is the same but for that
    AMF in the list of candidates. If none is left, the Allowed NSSAI is still the same, and
    the registration is granted exactly when a set still has an AMF that serves the request. -/
theorem registration_without_amf (nfId : String) (features : String) {httpCode : ℤ}
    (httpVersion : ℕ) (auth : AuthorizedNetworkSliceInfo) (hcode : httpCode ≠ HttpStatusCode.ok)
    (hok : (handleSliceInfoForRegistration C cfg si tai home features httpCode httpVersion
      auth).httpCode = HttpStatusCode.ok) :
    let out := handleSliceInfoForRegistration C cfg si tai home features httpCode httpVersion auth
    let out' := handleSliceInfoForRegistration C (configWithoutAmf nfId cfg) si tai home features
      httpCode httpVersion auth
    ∃ candidates, out.authSliceInfo.candidateAmfList = some candidates ∧
      (candidates.filter (· ≠ nfId) ≠ [] →
        out' = { out with authSliceInfo := { out.authSliceInfo with
          candidateAmfList := some (candidates.filter (· ≠ nfId)) } }) ∧
      out'.authSliceInfo.allowedNssaiList = out.authSliceInfo.allowedNssaiList ∧
      (out'.httpCode = HttpStatusCode.ok ∨ out'.httpCode = HttpStatusCode.forbidden) ∧
      (out'.httpCode = HttpStatusCode.ok ↔
        ∃ set ∈ (configWithoutAmf nfId cfg).amfInfoList,
          HasServingAmf C (si.requestedNssai.getD []) set) := by
  intro out out'
  obtain ⟨v, hv⟩ := exists_registrationDecides C cfg si tai home
  have hout : out = v.outcome httpCode auth := hv.handle_eq features httpCode httpVersion auth
  rw [hv.handle_eq] at hok
  obtain ⟨allowed, set, candidates, rfl⟩ := granted_of_ok hcode hok
  cases hv with
  | @granted hscope hta req sub hreq hsub hmatch set hamf =>
    have hta' : TaAuthorised (configWithoutAmf nfId cfg) tai := hta
    have hgranted : ∀ set', IsFirst (HasServingAmf C req) (configWithoutAmf nfId cfg).amfInfoList
        set' → out' = (RegistrationVerdict.granted (matchedSnssai C sub req) set'
          (servingAmfs C req set')).outcome httpCode auth := fun set' hset' =>
      (RegistrationDecides.granted hscope hta' hreq hsub hmatch hset').handle_eq features httpCode
        httpVersion auth
    refine ⟨servingAmfs C req set, by rw [hout]; rfl, ?_, ?_⟩
    · intro hleft
      rw [hgranted _ (isFirst_withoutAmf hamf hleft), hout, servingAmfs_withoutAmf]
      rfl
    · rw [hreq, Option.getD_some, hout]
      by_cases hserved : ∃ set ∈ (configWithoutAmf nfId cfg).amfInfoList, HasServingAmf C req set
      · obtain ⟨set', hset'⟩ := exists_isFirst_iff.mpr hserved
        rw [hgranted set' hset']
        exact ⟨rfl, Or.inl rfl, iff_of_true rfl hserved⟩
      · have hnone : ∀ s ∈ (configWithoutAmf nfId cfg).amfInfoList, ¬HasServingAmf C req s :=
          fun s hs h => hserved ⟨s, hs, h⟩
        have hrefused : out' = (RegistrationVerdict.noAmfSet (matchedSnssai C sub req)).outcome
            httpCode auth :=
          (RegistrationDecides.noAmfSet hscope hta' hreq hsub hmatch hnone).handle_eq features
            httpCode httpVersion auth
        rw [hrefused]
        exact ⟨rfl, Or.inr rfl, iff_of_false (show (403 : ℤ) ≠ 200 by decide) hserved⟩

/-- The only candidate is taken out. -/
theorem registration_without_amf_sample :
    let cfg := oneAmfConfig [⟨222, none⟩]
    let si := registrationFor [⟨222, none⟩] [⟨222, none⟩]
    let out := handleSliceInfoForRegistration sampleCommon cfg si {} {} "" 0 1 {}
    let out' := handleSliceInfoForRegistration sampleCommon (configWithoutAmf "amf-1" cfg) si {} {}
      "" 0 1 {}
    out'.authSliceInfo.allowedNssaiList = out.authSliceInfo.allowedNssaiList := by
  intro cfg si out out'
  have hok : out.httpCode = HttpStatusCode.ok := by decide
  obtain ⟨_, -, -, hallowed, -⟩ := registration_without_amf "amf-1" "" 1 {} (by decide) hok
  exact hallowed

end OaiNssf.SliceSelect
