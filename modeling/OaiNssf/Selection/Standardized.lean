import OaiNssf.Selection.Equivalence
import OaiNssf.Selection.Monotone

/-!
# The SD of a standardized SST

An SST up to `SST_MAX_STANDARDIZED_VALUE` is standardized, and its SD should not decide
a selection. `compare_snssai` looks at the SD from that value on, with `>=`.

* `SdVaries`: the S-NSSAIs agree, up to the SD of a standardized SST.
* `sdIgnored`: the constants with which `compare_snssai` leaves out the SD of every
  standardized SST (`matches_sdIgnored_iff`).
* `Grantable.transfer`: a registration that can be granted still can after replacements
  that keep what matches.
* `registration_sd_irrelevant_iff`, `pduSession_sd_irrelevant_iff`: when no choice of
  those SDs changes the decision, for one registration and one PDU session.
* `sd_never_decides_iff`: both.
-/

namespace OaiNssf.SliceSelect

open Coverage

variable {C D : Common}

/-! ## Standardized SSTs -/

variable (C) in
/-- The S-NSSAIs agree, up to the SD of a standardized SST. -/
def SdVaries (a b : Snssai) : Prop :=
  a.sst = b.sst ∧ (C.sstMaxStandardizedValue < a.sst → a.sd = b.sd)

variable (C) in
/-- The constants with the bound moved past the largest standardized SST. -/
def sdIgnored : Common :=
  { C with sstMaxStandardizedValue := C.sstMaxStandardizedValue + 1 }

theorem SdVaries.refl (a : Snssai) : SdVaries C a a := ⟨rfl, fun _ => rfl⟩

theorem SdVaries.symm {a b : Snssai} (h : SdVaries C a b) : SdVaries C b a := by
  obtain ⟨hsst, hsd⟩ := h
  refine ⟨hsst.symm, ?_⟩
  intro hmax
  rw [← hsst] at hmax
  exact (hsd hmax).symm

theorem SdVaries.getSd_eq {a b : Snssai} (h : SdVaries C a b)
    (hmax : C.sstMaxStandardizedValue < a.sst) : C.getSd a = C.getSd b := by
  unfold Common.getSd
  rw [h.2 hmax]

/-- Past the largest standardized SST the SDs are compared, and up to it they are not. -/
theorem matches_sdIgnored_iff {a b : Snssai} :
    Matches (sdIgnored C) a b ↔
      a.sst = b.sst ∧ (C.sstMaxStandardizedValue < a.sst → C.getSd a = C.getSd b) :=
  matches_iff

/-- Past the standardized SSTs the SDs are as they were, and those of a match agree. -/
theorem Matches.getSd_eq_of_sdVaries {r r' x x' : Snssai} (h : Matches C r x)
    (hr : SdVaries C r r') (hx : SdVaries C x x') (hlt : C.sstMaxStandardizedValue < r.sst) :
    C.getSd r' = C.getSd x' := by
  obtain ⟨hsst, hsd⟩ := matches_iff.mp h
  have hx_lt : C.sstMaxStandardizedValue < x.sst := by omega
  calc C.getSd r' = C.getSd r := (hr.getSd_eq hlt).symm
    _ = C.getSd x := hsd hlt.le
    _ = C.getSd x' := hx.getSd_eq hx_lt

theorem Matches.sst_eq_of_sdVaries {r r' x x' : Snssai} (h : Matches C r x)
    (hr : SdVaries C r r') (hx : SdVaries C x x') : r'.sst = x'.sst :=
  hr.1.symm.trans ((matches_iff.mp h).1.trans hx.1)

/-- Where the SSTs are not the largest standardized one, a match does not look at the SD
    of a standardized SST. -/
theorem matches_of_sdVaries {r r' x x' : Snssai} (hr : SdVaries C r r') (hx : SdVaries C x x')
    (hmax : r.sst ≠ C.sstMaxStandardizedValue ∨ x.sst ≠ C.sstMaxStandardizedValue)
    (h : Matches C r x) : Matches C r' x' := by
  have hsst : r.sst = x.sst := (matches_iff.mp h).1
  have hr_sst : r.sst = r'.sst := hr.1
  refine matches_iff.mpr ⟨h.sst_eq_of_sdVaries hr hx, ?_⟩
  -- an SST from the bound on that is not the bound is past the standardized ones
  intro hle
  exact h.getSd_eq_of_sdVaries hr hx (by omega)

theorem matches_congr_sdVaries {r r' x x' : Snssai} (hr : SdVaries C r r') (hx : SdVaries C x x')
    (hmax : r.sst ≠ C.sstMaxStandardizedValue ∨ x.sst ≠ C.sstMaxStandardizedValue) :
    Matches C r x ↔ Matches C r' x' := by
  have hmax' : r'.sst ≠ C.sstMaxStandardizedValue ∨ x'.sst ≠ C.sstMaxStandardizedValue := by
    rw [← hr.1, ← hx.1]
    exact hmax
  constructor
  · intro h
    exact matches_of_sdVaries hr hx hmax h
  · intro h
    exact matches_of_sdVaries hr.symm hx.symm hmax' h

/-- What matches, matches with the standardized SDs ignored, however they were before. -/
theorem matches_sdIgnored_of_sdVaries {r r' x x' : Snssai} (hr : SdVaries C r r')
    (hx : SdVaries C x x') (h : Matches C r x) : Matches (sdIgnored C) r' x' := by
  have hr_sst : r.sst = r'.sst := hr.1
  refine matches_sdIgnored_iff.mpr ⟨h.sst_eq_of_sdVaries hr hx, ?_⟩
  intro hlt
  exact h.getSd_eq_of_sdVaries hr hx (by omega)

/-! ## Setting the SD -/

variable (C) in
/-- The S-NSSAI with the SD `sd`, if it has the largest standardized SST. -/
def setSdAtMax (sd : String) (s : Snssai) : Snssai :=
  if s.sst = C.sstMaxStandardizedValue then { s with sd := some sd } else s

@[simp] theorem sst_setSdAtMax (sd : String) (s : Snssai) : (setSdAtMax C sd s).sst = s.sst := by
  unfold setSdAtMax
  split_ifs <;> rfl

theorem getSd_setSdAtMax {sd : String} {s : Snssai} (h : s.sst = C.sstMaxStandardizedValue) :
    C.getSd (setSdAtMax C sd s) = sd := by
  rw [setSdAtMax, if_pos h]
  rfl

theorem setSdAtMax_of_ne {sd : String} {s : Snssai} (h : s.sst ≠ C.sstMaxStandardizedValue) :
    setSdAtMax C sd s = s := if_neg h

theorem sdVaries_setSdAtMax (sd : String) (s : Snssai) : SdVaries C s (setSdAtMax C sd s) := by
  refine ⟨(sst_setSdAtMax sd s).symm, ?_⟩
  intro hlt
  rw [setSdAtMax_of_ne (by omega)]

/-- With one SD for all, the comparison does what it should. -/
theorem matches_setSdAtMax (sd : String) {r x : Snssai} (h : Matches (sdIgnored C) r x) :
    Matches C (setSdAtMax C sd r) (setSdAtMax C sd x) := by
  obtain ⟨hsst, hsd⟩ := matches_sdIgnored_iff.mp h
  refine matches_iff.mpr ⟨by simpa using hsst, ?_⟩
  intro hle
  rw [sst_setSdAtMax] at hle
  by_cases hmax : r.sst = C.sstMaxStandardizedValue
  · rw [getSd_setSdAtMax hmax, getSd_setSdAtMax (hsst ▸ hmax)]
  · rw [setSdAtMax_of_ne hmax, setSdAtMax_of_ne (hsst ▸ hmax)]
    exact hsd (by omega)

/-- With two SDs, nothing at the largest standardized SST matches. -/
theorem not_matches_setSdAtMax {sd sd' : String} (hne : sd ≠ sd') {r : Snssai}
    (hr : r.sst = C.sstMaxStandardizedValue) (x : Snssai) :
    ¬Matches C (setSdAtMax C sd r) (setSdAtMax C sd' x) := by
  intro h
  obtain ⟨hsst, hsd⟩ := matches_iff.mp h
  rw [sst_setSdAtMax, sst_setSdAtMax] at hsst
  rw [sst_setSdAtMax, getSd_setSdAtMax hr, getSd_setSdAtMax (hsst ▸ hr)] at hsd
  exact hne (hsd hr.ge)

/-- The configuration with every S-NSSAI changed by `g`. -/
def mapConfig (g : Snssai → Snssai) (cfg : NssfConfig) : NssfConfig where
  nsiInfoList := cfg.nsiInfoList.map fun item => { item with snssai := g item.snssai }
  taInfoList := cfg.taInfoList
  amfInfoList := cfg.amfInfoList.map fun set =>
    { set with amfList := set.amfList.map fun amf => (amf.1, amf.2.map fun d =>
      { d with supportedSnssaiList := d.supportedSnssaiList.map fun e =>
        ⟨(g (nssaiTmp e)).sst, (g (nssaiTmp e)).sd⟩ }) }

/-- The request with the requested S-NSSAIs changed by `f` and the subscribed ones by
    `g`. -/
def mapRequest (f g : Snssai → Snssai) (si : SliceInfoForRegistration) :
    SliceInfoForRegistration :=
  { si with
    requestedNssai := si.requestedNssai.map fun req => req.map f
    subscribedNssai := si.subscribedNssai.map fun sub =>
      sub.map fun s => ⟨g s.subscribedSnssai⟩ }

section Maps

variable {S T : Snssai → Snssai → Prop} {f g : Snssai → Snssai}

theorem configReplaced_mapConfig (hg : ∀ x, T x (g x)) (cfg : NssfConfig) :
    ConfigReplaced T cfg (mapConfig g cfg) where
  nsi := by
    rw [mapConfig, List.forall₂_map_right_iff, List.forall₂_same]
    exact fun item _ => ⟨hg item.snssai, rfl⟩
  ta := rfl
  amf := by
    rw [mapConfig, List.forall₂_map_right_iff, List.forall₂_same]
    refine fun set _ => ⟨⟨rfl, rfl, rfl⟩, ?_⟩
    rw [List.forall₂_map_right_iff, List.forall₂_same]
    refine fun amf _ => ⟨rfl, ?_⟩
    rw [List.forall₂_map_right_iff, List.forall₂_same]
    refine fun d _ => ⟨rfl, ?_⟩
    rw [List.forall₂_map_right_iff, List.forall₂_same]
    exact fun e _ => hg (nssaiTmp e)

theorem requestReplaced_mapRequest (hf : ∀ r, S r (f r)) (hg : ∀ x, T x (g x))
    (si : SliceInfoForRegistration) : RequestReplaced S T si (mapRequest f g si) where
  requested := by
    unfold mapRequest
    cases si.requestedNssai with
    | none => exact .none
    | some req =>
      refine .some ?_
      rw [List.forall₂_map_right_iff, List.forall₂_same]
      exact fun r _ => hf r
  subscribed := by
    unfold mapRequest
    cases si.subscribedNssai with
    | none => exact .none
    | some sub =>
      refine .some ?_
      rw [List.forall₂_map_right_iff, List.forall₂_same]
      exact fun s _ => hg s.subscribedSnssai
  requestMapping := rfl
  mappingOfNssai := rfl

end Maps

/-! ## Decisions -/

/-- The results of two registrations show the same decision: status, target AMF set and
    candidates. -/
structure DecidesAlike (out out' : SelectionResult) : Prop extends SameTarget out out' where
  candidateAmfList : out.authSliceInfo.candidateAmfList = out'.authSliceInfo.candidateAmfList

theorem DecidesAlike.symm {out out' : SelectionResult} (h : DecidesAlike out out') :
    DecidesAlike out' out where
  httpCode := h.httpCode.symm
  targetAmfSet := h.targetAmfSet.symm
  nrfAmfSet := h.nrfAmfSet.symm
  nrfAmfSetNfMgtUri := h.nrfAmfSetNfMgtUri.symm
  candidateAmfList := h.candidateAmfList.symm

theorem DecidesAlike.trans {out out' out'' : SelectionResult} (h : DecidesAlike out out')
    (h' : DecidesAlike out' out'') : DecidesAlike out out'' where
  httpCode := h.httpCode.trans h'.httpCode
  targetAmfSet := h.targetAmfSet.trans h'.targetAmfSet
  nrfAmfSet := h.nrfAmfSet.trans h'.nrfAmfSet
  nrfAmfSetNfMgtUri := h.nrfAmfSetNfMgtUri.trans h'.nrfAmfSetNfMgtUri
  candidateAmfList := h.candidateAmfList.trans h'.candidateAmfList

theorem OutcomesAlike.decidesAlike {A Q : List Snssai → List Snssai → Prop}
    {auth : AuthorizedNetworkSliceInfo} {out out' : SelectionResult}
    (h : OutcomesAlike A Q Eq auth out out') : DecidesAlike out out' :=
  ⟨h.toSameTarget, h.candidateAmfList.eq⟩

section Registration

variable {cfg cfg' : NssfConfig} {si si' : SliceInfoForRegistration} {tai : Tai} {home : PlmnId}

section Transfer

variable {S T : Snssai → Snssai → Prop}

/-- Replacements that keep what matches keep a registration grantable, also under other
    constants. -/
theorem Grantable.transfer {req : List Snssai} {sub : List SubscribedSnssai}
    (h : Grantable C cfg si tai home req sub) (hcfg : ConfigReplaced T cfg cfg')
    (hsi : RequestReplaced S T si si')
    (hST : ∀ r r' x x', S r r' → T x x' → Matches C r x → Matches D r' x') :
    ∃ req' sub', Grantable D cfg' si' tai home req' sub' := by
  rcases hsi.missing_or_given with
    ⟨hnone, -⟩ | ⟨req₀, req', sub₀, sub', hreq, hreq', hsub, hsub', hpos, hsubpos⟩
  · simp [h.requested, h.subscribed] at hnone
  · obtain rfl : req = req₀ := Option.some.inj (h.requested.symm.trans hreq)
    obtain rfl : sub = sub₀ := Option.some.inj (h.subscribed.symm.trans hsub)
    have hmatched : ∃ r ∈ req', Subscribed D sub' r := by
      refine (Alike.of_forall₂ hpos).exists_mem ?_ h.matched
      intro r r' hr hs
      exact hs.transfer hST hr (Alike.of_forall₂ hsubpos)
    have hserved : ∃ set ∈ cfg'.amfInfoList, HasServingAmf D req' set := by
      refine (Alike.of_forall₂ hcfg.amf).exists_mem ?_ h.served
      intro set set' hset hserving
      have hamfs : Alike (fun amf amf' => OffersAlike T amf.2 amf'.2) set.amfList set'.amfList :=
        Alike.of_forall₂ (hset.amfs.imp fun _ _ hamf => hamf.offers)
      exact hserving.transfer hST (Alike.of_forall₂ hpos) hamfs
    exact ⟨req', sub', hsi.inScope_iff.mp h.inScope,
      (taAuthorised_congr hcfg.ta).mp h.authorised, hreq', hsub', hmatched, hserved⟩

/-- What an AMF of the replaced configuration serves matches a replaced S-NSSAI. -/
theorem ConfigReplaced.exists_match {req : List Snssai} {r : Snssai} {set' : AmfInfo}
    (hcfg : ConfigReplaced T cfg cfg') (hmem : set' ∈ cfg'.amfInfoList)
    (hserving : HasServingAmf C req set') (hr : r ∈ req) : ∃ x x', T x x' ∧ Matches C r x' := by
  obtain ⟨amf', hamf', hserves⟩ := hserving
  obtain ⟨offers', hoffers', hcovers⟩ := hserves
  obtain ⟨d', hd', rfl⟩ := List.mem_map.mp hoffers'
  obtain ⟨e', he', hmatch⟩ := hcovers r hr
  obtain ⟨set, -, hset⟩ := (Alike.of_forall₂ hcfg.amf).right set' hmem
  obtain ⟨amf, -, hamf⟩ := (Alike.of_forall₂ hset.amfs).right amf' hamf'
  obtain ⟨d, -, hd⟩ := (Alike.of_forall₂ hamf.entries).right d' hd'
  obtain ⟨e, -, he⟩ := (Alike.of_forall₂ hd.supported).right e' he'
  exact ⟨nssaiTmp e, nssaiTmp e', he, hmatch⟩

end Transfer

variable (features : String) (httpCode : ℤ) (httpVersion : ℕ) (auth : AuthorizedNetworkSliceInfo)

/-- With both lists given and every check passed, what cannot be granted is refused. -/
theorem refused_of_given (hscope : InScope si home) (hta : TaAuthorised cfg tai)
    {req : List Snssai} {sub : List SubscribedSnssai} (hreq : si.requestedNssai = some req)
    (hsub : si.subscribedNssai = some sub)
    (hnot : ¬∃ req sub, Grantable C cfg si tai home req sub) :
    DecidesAlike
      (handleSliceInfoForRegistration C cfg si tai home features httpCode httpVersion auth)
      ⟨false, HttpStatusCode.forbidden, auth⟩ := by
  by_cases hmatched : ∃ r ∈ req, Subscribed C sub r
  · have hnone : ∀ set ∈ cfg.amfInfoList, ¬HasServingAmf C req set := by
      intro set hset hserving
      exact hnot ⟨req, sub, hscope, hta, hreq, hsub, hmatched, set, hset, hserving⟩
    rw [(RegistrationDecides.noAmfSet hscope hta hreq hsub hmatched hnone).handle_eq]
    exact ⟨⟨rfl, rfl, rfl, rfl⟩, rfl⟩
  · have hnone : ∀ r ∈ req, ¬Subscribed C sub r := fun r hr hs => hmatched ⟨r, hr, hs⟩
    rw [(RegistrationDecides.notInPlmn hscope hta hreq hsub hnone).handle_eq]
    exact ⟨⟨rfl, rfl, rfl, rfl⟩, rfl⟩

/-- Two registrations that agree up to their S-NSSAIs, neither of which can be granted,
    are decided alike. -/
theorem refused_alike {S T : Snssai → Snssai → Prop} (hcfg : ConfigReplaced T cfg cfg')
    (hsi : RequestReplaced S T si si') (hnot : ¬∃ req sub, Grantable C cfg si tai home req sub)
    (hnot' : ¬∃ req sub, Grantable C cfg' si' tai home req sub) :
    DecidesAlike
      (handleSliceInfoForRegistration C cfg si tai home features httpCode httpVersion auth)
      (handleSliceInfoForRegistration C cfg' si' tai home features httpCode httpVersion
        auth) := by
  have hscope_iff : InScope si home ↔ InScope si' home := hsi.inScope_iff
  have hta_iff : TaAuthorised cfg tai ↔ TaAuthorised cfg' tai := taAuthorised_congr hcfg.ta
  have halike : (InScope si home → TaAuthorised cfg tai →
      ListsAlike C Eq Eq Eq cfg cfg' si si') → DecidesAlike
        (handleSliceInfoForRegistration C cfg si tai home features httpCode httpVersion auth)
        (handleSliceInfoForRegistration C cfg' si' tai home features httpCode httpVersion
          auth) := by
    intro hlists
    have hsame : RegistrationsAlike C Eq Eq Eq cfg cfg' si si' tai home :=
      ⟨hscope_iff, hta_iff, hlists⟩
    exact (hsame.outcomes features httpCode httpVersion auth).decidesAlike
  rcases hsi.missing_or_given with
    ⟨hnone, hnone'⟩ | ⟨req, req', sub, sub', hreq, hreq', hsub, hsub', -, -⟩
  · exact halike fun _ _ => .missing hnone hnone'
  by_cases hpast : InScope si home ∧ TaAuthorised cfg tai
  · obtain ⟨hscope, hta⟩ := hpast
    have hrefused := refused_of_given features httpCode httpVersion auth hscope hta hreq hsub hnot
    have hrefused' := refused_of_given features httpCode httpVersion auth (hscope_iff.mp hscope)
      (hta_iff.mp hta) hreq' hsub' hnot'
    exact hrefused.trans hrefused'.symm
  · exact halike fun hscope hta => absurd ⟨hscope, hta⟩ hpast

/-! ## Registrations -/

variable (C cfg si tai home) in
/-- No choice of the SDs of standardized SSTs changes the decision on the registration. -/
def RegistrationSdIrrelevant : Prop :=
  ∀ cfg' si', ConfigReplaced (SdVaries C) cfg cfg' →
    RequestReplaced (SdVaries C) (SdVaries C) si si' →
    DecidesAlike
      (handleSliceInfoForRegistration C cfg si tai home features httpCode httpVersion auth)
      (handleSliceInfoForRegistration C cfg' si' tai home features httpCode httpVersion auth)

/-- Nothing requested has the largest standardized SST. -/
theorem registrationSdIrrelevant_of_ne
    (h : ∀ r ∈ si.requestedNssai.getD [], r.sst ≠ C.sstMaxStandardizedValue) :
    RegistrationSdIrrelevant C cfg si tai home features httpCode httpVersion auth := by
  intro cfg' si' hcfg hsi
  have hST : ∀ r r' x x', r.sst ≠ C.sstMaxStandardizedValue ∧ SdVaries C r r' →
      SdVaries C x x' → (Matches C r x ↔ Matches C r' x') :=
    fun r r' x x' hr hx => matches_congr_sdVaries hr.2 hx (Or.inl hr.1)
  have hsi' : RequestReplaced
      (fun r r' => r.sst ≠ C.sstMaxStandardizedValue ∧ SdVaries C r r') (SdVaries C) si si' := by
    refine ⟨?_, hsi.subscribed, hsi.requestMapping, hsi.mappingOfNssai⟩
    have hrequested := hsi.requested
    generalize si.requestedNssai = requested at hrequested h ⊢
    generalize si'.requestedNssai = requested' at hrequested ⊢
    cases hrequested with
    | none => exact .none
    | some hpos => exact .some ((List.forall₂_and_left _ _).mpr ⟨h, hpos⟩)
  exact (registration_congr hST hcfg hsi' features httpCode httpVersion auth).decidesAlike

/-- The registration is refused with the standardized SDs ignored. -/
theorem registrationSdIrrelevant_of_refused
    (h : ¬∃ req sub, Grantable (sdIgnored C) cfg si tai home req sub) :
    RegistrationSdIrrelevant C cfg si tai home features httpCode httpVersion auth := by
  have hrefused : ∀ cfg' si', ConfigReplaced (SdVaries C) cfg cfg' →
      RequestReplaced (SdVaries C) (SdVaries C) si si' →
      ¬∃ req sub, Grantable C cfg' si' tai home req sub := by
    intro cfg' si' hcfg hsi hgrant
    obtain ⟨req, sub, hgrant⟩ := hgrant
    exact h (hgrant.transfer (hcfg.symm fun _ _ => SdVaries.symm)
      (hsi.symm fun _ _ => SdVaries.symm) fun _ _ _ _ => matches_sdIgnored_of_sdVaries)
  intro cfg' si' hcfg hsi
  have hself := hrefused cfg si (ConfigReplaced.refl SdVaries.refl cfg)
    (RequestReplaced.refl SdVaries.refl si)
  exact refused_alike features httpCode httpVersion auth hcfg hsi hself
    (hrefused cfg' si' hcfg hsi)

/-- With one SD at the largest standardized SST, the registration is granted as if the
    SD there were ignored. -/
theorem status_of_one_sd {req : List Snssai} {sub : List SubscribedSnssai}
    (h : Grantable (sdIgnored C) cfg si tai home req sub) (sd : String) :
    (handleSliceInfoForRegistration C (mapConfig (setSdAtMax C sd) cfg)
      (mapRequest (setSdAtMax C sd) (setSdAtMax C sd) si) tai home features httpCode httpVersion
      auth).httpCode = HttpStatusCode.ok := by
  let T : Snssai → Snssai → Prop := fun x x' => setSdAtMax C sd x = x'
  have hcfg : ConfigReplaced T cfg (mapConfig (setSdAtMax C sd) cfg) :=
    configReplaced_mapConfig (fun _ => rfl) cfg
  have hsi : RequestReplaced T T si (mapRequest (setSdAtMax C sd) (setSdAtMax C sd) si) :=
    requestReplaced_mapRequest (fun _ => rfl) (fun _ => rfl) si
  have hT : ∀ r r' x x', T r r' → T x x' → Matches (sdIgnored C) r x → Matches C r' x' := by
    intro r r' x x' hr hx hmatch
    rw [← hr, ← hx]
    exact matches_setSdAtMax sd hmatch
  obtain ⟨req', sub', hgrant⟩ := h.transfer hcfg hsi hT
  exact (hgrant.outcome features httpCode httpVersion auth).1

/-- With one SD in the request and another one elsewhere, a request with the largest
    standardized SST is refused. -/
theorem status_of_two_sds {req : List Snssai} {sub : List SubscribedSnssai}
    (h : Grantable (sdIgnored C) cfg si tai home req sub) {r : Snssai} (hmem : r ∈ req)
    (hr : r.sst = C.sstMaxStandardizedValue) {sd sd' : String} (hne : sd ≠ sd') :
    (handleSliceInfoForRegistration C (mapConfig (setSdAtMax C sd') cfg)
      (mapRequest (setSdAtMax C sd) (setSdAtMax C sd') si) tai home features httpCode httpVersion
      auth).httpCode = HttpStatusCode.forbidden := by
  have hcfg : ConfigReplaced (fun x x' => setSdAtMax C sd' x = x') cfg
      (mapConfig (setSdAtMax C sd') cfg) := configReplaced_mapConfig (fun _ => rfl) cfg
  have hreq : (mapRequest (setSdAtMax C sd) (setSdAtMax C sd') si).requestedNssai =
      some (req.map (setSdAtMax C sd)) := by
    rw [mapRequest, h.requested]
    rfl
  have hsub : (mapRequest (setSdAtMax C sd) (setSdAtMax C sd') si).subscribedNssai =
      some (sub.map fun s => ⟨setSdAtMax C sd' s.subscribedSnssai⟩) := by
    rw [mapRequest, h.subscribed]
    rfl
  have hnot : ¬∃ req' sub', Grantable C (mapConfig (setSdAtMax C sd') cfg)
      (mapRequest (setSdAtMax C sd) (setSdAtMax C sd') si) tai home req' sub' := by
    intro hgrant
    obtain ⟨req', sub', hgrant⟩ := hgrant
    have hreq' : req' = req.map (setSdAtMax C sd) :=
      Option.some.inj (hgrant.requested.symm.trans hreq)
    have hmem' : setSdAtMax C sd r ∈ req' := by
      rw [hreq']
      exact List.mem_map_of_mem hmem
    obtain ⟨set, hset, hserving⟩ := hgrant.served
    obtain ⟨x, x', rfl, hmatch⟩ := hcfg.exists_match hset hserving hmem'
    exact not_matches_setSdAtMax hne hr x hmatch
  have hscope : InScope (mapRequest (setSdAtMax C sd) (setSdAtMax C sd') si) home :=
    h.inScope.congr rfl rfl
  have hta : TaAuthorised (mapConfig (setSdAtMax C sd') cfg) tai := h.authorised
  exact (refused_of_given features httpCode httpVersion auth hscope hta hreq hsub hnot).httpCode

/-- The SDs of standardized SSTs are irrelevant for a registration exactly when nothing
    requested has the largest standardized SST, or it would be refused with those SDs
    ignored. -/
theorem registration_sd_irrelevant_iff :
    RegistrationSdIrrelevant C cfg si tai home features httpCode httpVersion auth ↔
      (∀ r ∈ si.requestedNssai.getD [], r.sst ≠ C.sstMaxStandardizedValue) ∨
        ¬∃ req sub, Grantable (sdIgnored C) cfg si tai home req sub := by
  constructor
  · intro h
    by_contra hcond
    rw [not_or, not_not] at hcond
    obtain ⟨hmax, req, sub, hgrant⟩ := hcond
    rw [hgrant.requested, Option.getD_some] at hmax
    obtain ⟨r, hmem, hr⟩ : ∃ r ∈ req, r.sst = C.sstMaxStandardizedValue := by
      simpa only [not_forall, not_not, exists_prop] using hmax
    -- one SD for all S-NSSAIs, and one for the request with another for the rest
    have hne : "000001" ≠ "000002" := by decide
    have hvaries : ∀ sd (x : Snssai), SdVaries C x (setSdAtMax C sd x) := sdVaries_setSdAtMax
    have hok := h _ _ (configReplaced_mapConfig (hvaries "000001") cfg)
      (requestReplaced_mapRequest (hvaries "000001") (hvaries "000001") si)
    have hforbidden := h _ _ (configReplaced_mapConfig (hvaries "000002") cfg)
      (requestReplaced_mapRequest (hvaries "000001") (hvaries "000002") si)
    have hsame := hok.httpCode.symm.trans hforbidden.httpCode
    rw [status_of_one_sd features httpCode httpVersion auth hgrant,
      status_of_two_sds features httpCode httpVersion auth hgrant hmem hr hne] at hsame
    exact absurd hsame (by decide)
  · intro h
    rcases h with hmax | hrefused
    · exact registrationSdIrrelevant_of_ne features httpCode httpVersion auth hmax
    · exact registrationSdIrrelevant_of_refused features httpCode httpVersion auth hrefused

end Registration

/-! ## PDU sessions -/

section PduSession

variable {cfg : NssfConfig} {ps : SliceInfoForPDUSession} {tai : Tai} {home : PlmnId}
  (features : String) (httpCode : ℤ) (httpVersion : ℕ) (auth : AuthorizedNetworkSliceInfo)

variable (C cfg ps tai home) in
/-- No choice of the SDs of standardized SSTs changes the status for the PDU session. -/
def PduSessionSdIrrelevant : Prop :=
  ∀ cfg' ps', ConfigReplaced (SdVaries C) cfg cfg' → SessionReplaced (SdVaries C) ps ps' →
    (handleSliceInfoForPduSession C cfg ps tai home features httpCode httpVersion auth).httpCode =
      (handleSliceInfoForPduSession C cfg' ps' tai home features httpCode httpVersion
        auth).httpCode

/-- The S-NSSAI does not have the largest standardized SST. -/
theorem pduSessionSdIrrelevant_of_ne (h : ps.sNssai.sst ≠ C.sstMaxStandardizedValue) :
    PduSessionSdIrrelevant C cfg ps tai home features httpCode httpVersion auth := by
  intro cfg' ps' hcfg hps
  have hST : ∀ r r' x x', r.sst ≠ C.sstMaxStandardizedValue ∧ SdVaries C r r' →
      SdVaries C x x' → (Matches C r x ↔ Matches C r' x') :=
    fun r r' x x' hr hx => matches_congr_sdVaries hr.2 hx (Or.inl hr.1)
  have hps' : SessionReplaced (fun r r' => r.sst ≠ C.sstMaxStandardizedValue ∧ SdVaries C r r')
      ps ps' := ⟨⟨h, hps.sNssai⟩, hps.roamingIndication⟩
  rw [pduSession_congr hST hcfg.nsi hcfg.ta hps']

/-- No instance is configured at the largest standardized SST. -/
theorem pduSessionSdIrrelevant_of_no_item
    (h : ∀ item ∈ cfg.nsiInfoList, item.snssai.sst ≠ C.sstMaxStandardizedValue) :
    PduSessionSdIrrelevant C cfg ps tai home features httpCode httpVersion auth := by
  intro cfg' ps' hcfg hps
  have hST : ∀ r r' x x', SdVaries C r r' →
      x.sst ≠ C.sstMaxStandardizedValue ∧ SdVaries C x x' →
      (Matches C r x ↔ Matches C r' x') :=
    fun r r' x x' hr hx => matches_congr_sdVaries hr hx.2 (Or.inr hx.1)
  have hnsi : List.Forall₂
      (NsiReplaced fun x x' => x.sst ≠ C.sstMaxStandardizedValue ∧ SdVaries C x x')
      cfg.nsiInfoList cfg'.nsiInfoList := by
    refine ((List.forall₂_and_left _ _).mpr ⟨h, hcfg.nsi⟩).imp ?_
    exact fun item item' hitem => ⟨⟨hitem.1, hitem.2.snssai⟩, hitem.2.nsiInfo⟩
  rw [pduSession_congr hST hnsi hcfg.ta hps]

/-- The request is refused before its S-NSSAI is looked at. -/
theorem pduSessionSdIrrelevant_of_refused
    (h : ¬NonRoaming C ps home ∨ ¬TaAuthorised cfg tai) :
    PduSessionSdIrrelevant C cfg ps tai home features httpCode httpVersion auth := by
  intro cfg' ps' hcfg hps
  by_cases hroam : NonRoaming C ps home
  · have hta : ¬TaAuthorised cfg tai := h.resolve_left (not_not_intro hroam)
    have hta' : ¬TaAuthorised cfg' tai := mt (taAuthorised_congr hcfg.ta).mpr hta
    have hroam' : NonRoaming C ps' home := hps.nonRoaming_iff.mp hroam
    rw [(PduSessionDecides.taNotAuthorised hroam hta).handle_eq,
      (PduSessionDecides.taNotAuthorised hroam' hta').handle_eq]
  · have hroam' : ¬NonRoaming C ps' home := mt hps.nonRoaming_iff.mpr hroam
    rw [(PduSessionDecides.notSupported hroam).handle_eq,
      (PduSessionDecides.notSupported hroam').handle_eq]

/-- The request with the S-NSSAI changed by `f`. -/
def mapSession (f : Snssai → Snssai) (ps : SliceInfoForPDUSession) : SliceInfoForPDUSession :=
  { ps with sNssai := f ps.sNssai }

/-- With one SD at the largest standardized SST, an instance there is found. -/
theorem session_status_of_one_sd (hroam : NonRoaming C ps home) (hta : TaAuthorised cfg tai)
    (hps : ps.sNssai.sst = C.sstMaxStandardizedValue) {item : NsiInfo}
    (hmem : item ∈ cfg.nsiInfoList) (hitem : item.snssai.sst = C.sstMaxStandardizedValue)
    (sd : String) :
    (handleSliceInfoForPduSession C (mapConfig (setSdAtMax C sd) cfg)
      (mapSession (setSdAtMax C sd) ps) tai home features httpCode httpVersion auth).httpCode =
      HttpStatusCode.ok := by
  have hignored : Matches (sdIgnored C) ps.sNssai item.snssai := by
    refine matches_sdIgnored_iff.mpr ⟨hps.trans hitem.symm, ?_⟩
    intro hlt
    omega
  have hfound : ∃ i ∈ (mapConfig (setSdAtMax C sd) cfg).nsiInfoList,
      Matches C (setSdAtMax C sd ps.sNssai) i.snssai :=
    ⟨_, List.mem_map_of_mem hmem, matches_setSdAtMax sd hignored⟩
  obtain ⟨first, hfirst⟩ := exists_isFirst_iff.mpr hfound
  have hroam' : NonRoaming C (mapSession (setSdAtMax C sd) ps) home :=
    ⟨hroam.indication, hroam.noHomePlmn⟩
  have hta' : TaAuthorised (mapConfig (setSdAtMax C sd) cfg) tai := hta
  rw [(PduSessionDecides.granted hroam' hta' hfirst).handle_eq]
  rfl

/-- With one SD in the request and another one elsewhere, none is found. -/
theorem session_status_of_two_sds (hroam : NonRoaming C ps home) (hta : TaAuthorised cfg tai)
    (hps : ps.sNssai.sst = C.sstMaxStandardizedValue) {sd sd' : String} (hne : sd ≠ sd') :
    (handleSliceInfoForPduSession C (mapConfig (setSdAtMax C sd') cfg)
      (mapSession (setSdAtMax C sd) ps) tai home features httpCode httpVersion auth).httpCode =
      HttpStatusCode.badRequest := by
  have hnone : ∀ i ∈ (mapConfig (setSdAtMax C sd') cfg).nsiInfoList,
      ¬Matches C (setSdAtMax C sd ps.sNssai) i.snssai := by
    intro i hi
    obtain ⟨item, -, rfl⟩ := List.mem_map.mp hi
    exact not_matches_setSdAtMax hne hps item.snssai
  have hroam' : NonRoaming C (mapSession (setSdAtMax C sd) ps) home :=
    ⟨hroam.indication, hroam.noHomePlmn⟩
  have hta' : TaAuthorised (mapConfig (setSdAtMax C sd') cfg) tai := hta
  rw [(PduSessionDecides.noNsi hroam' hta' hnone).handle_eq]
  rfl

/-- The SDs of standardized SSTs are irrelevant for a PDU session exactly when its SST is
    not the largest standardized one, or no instance has that SST, or the request is
    refused before. -/
theorem pduSession_sd_irrelevant_iff :
    PduSessionSdIrrelevant C cfg ps tai home features httpCode httpVersion auth ↔
      ps.sNssai.sst ≠ C.sstMaxStandardizedValue ∨
        (¬NonRoaming C ps home ∨ ¬TaAuthorised cfg tai) ∨
        ∀ item ∈ cfg.nsiInfoList, item.snssai.sst ≠ C.sstMaxStandardizedValue := by
  constructor
  · intro h
    by_contra hcond
    simp only [not_or, not_not] at hcond
    obtain ⟨hps, ⟨hroam, hta⟩, hitems⟩ := hcond
    obtain ⟨item, hmem, hitem⟩ : ∃ item ∈ cfg.nsiInfoList,
        item.snssai.sst = C.sstMaxStandardizedValue := by
      simpa only [not_forall, not_not, exists_prop] using hitems
    have hne : "000001" ≠ "000002" := by decide
    have hvaries : ∀ sd (x : Snssai), SdVaries C x (setSdAtMax C sd x) := sdVaries_setSdAtMax
    have hsession : SessionReplaced (SdVaries C) ps (mapSession (setSdAtMax C "000001") ps) :=
      ⟨hvaries "000001" ps.sNssai, rfl⟩
    have hok := h _ _ (configReplaced_mapConfig (hvaries "000001") cfg) hsession
    have hbad := h _ _ (configReplaced_mapConfig (hvaries "000002") cfg) hsession
    have hsame := hok.symm.trans hbad
    rw [session_status_of_one_sd features httpCode httpVersion auth hroam hta hps hmem hitem,
      session_status_of_two_sds features httpCode httpVersion auth hroam hta hps hne] at hsame
    exact absurd hsame (by decide)
  · intro h
    rcases h with hps | hrefused | hitems
    · exact pduSessionSdIrrelevant_of_ne features httpCode httpVersion auth hps
    · exact pduSessionSdIrrelevant_of_refused features httpCode httpVersion auth hrefused
    · exact pduSessionSdIrrelevant_of_no_item features httpCode httpVersion auth hitems

end PduSession

/-! ## Both handlers -/

/-- When the SDs of standardized SSTs, wherever they stand, do not decide: for a
    registration, nothing requested has the largest standardized SST or the request would
    be refused with those SDs ignored; for a PDU session, request and configuration do not
    share that SST or the request is refused before. -/
theorem sd_never_decides_iff (C : Common) (cfg : NssfConfig) (tai : Tai) (home : PlmnId)
    (features : String) (httpCode : ℤ) (httpVersion : ℕ) (auth : AuthorizedNetworkSliceInfo) :
    (∀ si, RegistrationSdIrrelevant C cfg si tai home features httpCode httpVersion auth ↔
      (∀ r ∈ si.requestedNssai.getD [], r.sst ≠ C.sstMaxStandardizedValue) ∨
        ¬∃ req sub, Grantable (sdIgnored C) cfg si tai home req sub) ∧
    ∀ ps, PduSessionSdIrrelevant C cfg ps tai home features httpCode httpVersion auth ↔
      ps.sNssai.sst ≠ C.sstMaxStandardizedValue ∨
        (¬NonRoaming C ps home ∨ ¬TaAuthorised cfg tai) ∨
        ∀ item ∈ cfg.nsiInfoList, item.snssai.sst ≠ C.sstMaxStandardizedValue :=
  ⟨fun _ => registration_sd_irrelevant_iff features httpCode httpVersion auth,
    fun _ => pduSession_sd_irrelevant_iff features httpCode httpVersion auth⟩

/-- A UE asks for SST 127 with SD 000001, which one AMF supports. It is granted when the
    subscription has the same SD, and refused when the subscription has none; and an
    instance for SST 127 is found with the SD of the request and not without. -/
theorem sd_decides_at_max :
    let snssai : Snssai := ⟨127, some "000001"⟩
    let si := registrationFor [snssai] [snssai]
    let si' := registrationFor [snssai] [⟨127, none⟩]
    let ps : SliceInfoForPDUSession := { sNssai := snssai, roamingIndication := .nonRoaming }
    let ps' : SliceInfoForPDUSession := { ps with sNssai := ⟨127, none⟩ }
    let cfg := { oneAmfConfig [⟨127, some "000001"⟩] with nsiInfoList := [⟨snssai, {}⟩] }
    ConfigReplaced (SdVaries sampleCommon) cfg cfg ∧
      RequestReplaced (SdVaries sampleCommon) (SdVaries sampleCommon) si si' ∧
      (handleSliceInfoForRegistration sampleCommon cfg si {} {} "" 0 1 {}).httpCode =
        HttpStatusCode.ok ∧
      (handleSliceInfoForRegistration sampleCommon cfg si' {} {} "" 0 1 {}).httpCode =
        HttpStatusCode.forbidden ∧
      SessionReplaced (SdVaries sampleCommon) ps ps' ∧
      (handleSliceInfoForPduSession sampleCommon cfg ps {} {} "" 0 1 {}).httpCode =
        HttpStatusCode.ok ∧
      (handleSliceInfoForPduSession sampleCommon cfg ps' {} {} "" 0 1 {}).httpCode =
        HttpStatusCode.badRequest := by
  have hvaries : SdVaries sampleCommon ⟨127, some "000001"⟩ ⟨127, none⟩ :=
    ⟨rfl, fun h => absurd h (by decide)⟩
  refine ⟨ConfigReplaced.refl SdVaries.refl _, ⟨.some (.cons (SdVaries.refl _) .nil),
    .some (.cons hvaries .nil), rfl, rfl⟩, ?_, ?_, ⟨hvaries, rfl⟩, ?_, ?_⟩ <;> decide

end OaiNssf.SliceSelect
