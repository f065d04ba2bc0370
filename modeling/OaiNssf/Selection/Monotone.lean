import OaiNssf.Selection.Grant

/-!
# Two registrations compared

A registration that is granted, and the same one on a configuration or a request to
which entries have been added or from which requested S-NSSAIs have been deleted.

* `ConfigExtends`: entries inserted at any level of the configuration.
* `HasServingAmf.mono`: what serves a request still serves it.
* `Grantable.extend`, `Grantable.restrict`: a request that can be granted still can.
* `registration_monotone`: the request is granted as before.
-/

namespace OaiNssf.SliceSelect

open Coverage

variable {C : Common} {cfg cfg' : NssfConfig} {si : SliceInfoForRegistration} {tai : Tai}
  {home : PlmnId}

/-! ## Insertions -/

/-- The entry `d'` is `d` with further supported S-NSSAIs. -/
structure EntryExtends (d d' : SupportedNssaiAvailabilityData) : Prop where
  tai : d.tai = d'.tai
  supported : d.supportedSnssaiList.Sublist d'.supportedSnssaiList

/-- The AMF `a'` is `a` with further availability entries, and further S-NSSAIs in
    those it had. -/
structure AmfExtends (a a' : String × List SupportedNssaiAvailabilityData) : Prop where
  nfId : a.1 = a'.1
  entries : List.SublistForall₂ EntryExtends a.2 a'.2

/-- The AMF set `s'` is `s` with further AMFs, and the AMFs it had extended. -/
structure SetExtends (s s' : AmfInfo) : Prop where
  targetAmfSet : s.targetAmfSet = s'.targetAmfSet
  nrfAmfSet : s.nrfAmfSet = s'.nrfAmfSet
  nrfAmfSetMgt : s.nrfAmfSetMgt = s'.nrfAmfSetMgt
  amfs : List.SublistForall₂ AmfExtends s.amfList s'.amfList

/-- The configuration `cfg'` is `cfg` with further tracking areas and AMF sets, and the
    AMF sets it had extended. -/
structure ConfigExtends (cfg cfg' : NssfConfig) : Prop where
  ta : cfg.taInfoList.Sublist cfg'.taInfoList
  amf : List.SublistForall₂ SetExtends cfg.amfInfoList cfg'.amfInfoList

/-! ## What insertions preserve -/

theorem TaAuthorised.mono (h : TaAuthorised cfg tai) (hext : ConfigExtends cfg cfg') :
    TaAuthorised cfg' tai := by
  rcases h with htac | ⟨item, hitem, heq⟩
  · exact Or.inl htac
  · exact Or.inr ⟨item, hext.ta.subset hitem, heq⟩

theorem Subscribed.mono {sub sub' : List SubscribedSnssai} {r : Snssai} (h : Subscribed C sub r)
    (hsub : sub ⊆ sub') : Subscribed C sub' r := by
  obtain ⟨s, hs, hmatch⟩ := h
  exact ⟨s, hsub hs, hmatch⟩

theorem ServesNssai.mono {req : List Snssai} {a a' : String × List SupportedNssaiAvailabilityData}
    (hext : AmfExtends a a') (h : ServesNssai C req a.2) : ServesNssai C req a'.2 := by
  unfold ServesNssai Serves at h ⊢
  simp only [List.mem_map, exists_exists_and_eq_and] at h ⊢
  refine exists_mem_mono hext.entries ?_ h
  intro d d' hd hcovers
  exact hcovers.mono hd.supported.subset

theorem HasServingAmf.mono {req : List Snssai} {s s' : AmfInfo} (hext : SetExtends s s')
    (h : HasServingAmf C req s) : HasServingAmf C req s' :=
  exists_mem_mono hext.amfs (fun _ _ ha => ServesNssai.mono ha) h

/-- Fewer requested S-NSSAIs are easier to serve. -/
theorem HasServingAmf.anti {req req' : List Snssai} {s : AmfInfo} (h : HasServingAmf C req s)
    (hsub : req' ⊆ req) : HasServingAmf C req' s := by
  obtain ⟨amf, hamf, hserves⟩ := h
  exact ⟨amf, hamf, hserves.anti hsub⟩

/-- With more subscribed S-NSSAIs, more of the request is allowed. -/
theorem filter_subscribed_sublist {sub sub' : List SubscribedSnssai} (hsub : sub ⊆ sub')
    (req : List Snssai) :
    (req.filter fun r => Subscribed C sub r).Sublist (req.filter fun r => Subscribed C sub' r) := by
  apply List.monotone_filter_right
  intro r hr
  rw [decide_eq_true_iff] at hr ⊢
  exact hr.mono hsub

/-! ## Granted registrations -/

/-- What the registration handler needs to grant `req` to a UE subscribed to `sub`. -/
structure Grantable (C : Common) (cfg : NssfConfig) (si : SliceInfoForRegistration) (tai : Tai)
    (home : PlmnId) (req : List Snssai) (sub : List SubscribedSnssai) : Prop where
  inScope : InScope si home
  authorised : TaAuthorised cfg tai
  requested : si.requestedNssai = some req
  subscribed : si.subscribedNssai = some sub
  matched : ∃ r ∈ req, Subscribed C sub r
  served : ∃ set ∈ cfg.amfInfoList, HasServingAmf C req set

/-- What it then leaves behind. -/
theorem Grantable.outcome {req : List Snssai} {sub : List SubscribedSnssai}
    (h : Grantable C cfg si tai home req sub) (features : String) (httpCode : ℤ)
    (httpVersion : ℕ) (auth : AuthorizedNetworkSliceInfo) :
    let out := handleSliceInfoForRegistration C cfg si tai home features httpCode httpVersion auth
    out.httpCode = HttpStatusCode.ok ∧
      allowedSnssais out.authSliceInfo = req.filter fun r => Subscribed C sub r := by
  obtain ⟨set, hset⟩ := exists_isFirst_iff.mpr h.served
  rw [(RegistrationDecides.granted h.inScope h.authorised h.requested h.subscribed h.matched
    hset).handle_eq]
  refine ⟨rfl, ?_⟩
  rw [← matchedSnssai_eq_filter]
  simp [RegistrationVerdict.outcome]

/-- Insertions into the configuration. -/
theorem Grantable.mono {req : List Snssai} {sub : List SubscribedSnssai}
    (h : Grantable C cfg si tai home req sub) (hext : ConfigExtends cfg cfg') :
    Grantable C cfg' si tai home req sub where
  inScope := h.inScope
  authorised := h.authorised.mono hext
  requested := h.requested
  subscribed := h.subscribed
  matched := h.matched
  served := exists_mem_mono hext.amf (fun _ _ hs => HasServingAmf.mono hs) h.served

/-- Insertions into the subscribed list. -/
theorem Grantable.extend {req : List Snssai} {sub sub' : List SubscribedSnssai}
    (h : Grantable C cfg si tai home req sub) (hsub : sub ⊆ sub') :
    Grantable C cfg { si with subscribedNssai := some sub' } tai home req sub' where
  inScope := h.inScope.congr rfl rfl
  authorised := h.authorised
  requested := h.requested
  subscribed := rfl
  matched := by
    obtain ⟨r, hr, hsubscribed⟩ := h.matched
    exact ⟨r, hr, hsubscribed.mono hsub⟩
  served := h.served

/-- Deletions from the requested list that leave something subscribed. -/
theorem Grantable.restrict {req req' : List Snssai} {sub : List SubscribedSnssai}
    (h : Grantable C cfg si tai home req sub) (hreq : req' ⊆ req)
    (hmatch : ∃ r ∈ req', Subscribed C sub r) :
    Grantable C cfg { si with requestedNssai := some req' } tai home req' sub where
  inScope := h.inScope.congr rfl rfl
  authorised := h.authorised
  requested := rfl
  subscribed := h.subscribed
  matched := hmatch
  served := by
    obtain ⟨set, hset, hserving⟩ := h.served
    exact ⟨set, hset, hserving.anti hreq⟩

/-- A status 200 comes from a request that is granted, or it was there before, and then
    one of the two lists is missing. -/
theorem grantable_of_ok (features : String) {httpCode : ℤ} (httpVersion : ℕ)
    (auth : AuthorizedNetworkSliceInfo)
    (hcode : httpCode = HttpStatusCode.ok → TaAuthorised cfg tai)
    (hok : (handleSliceInfoForRegistration C cfg si tai home features httpCode httpVersion
      auth).httpCode = HttpStatusCode.ok) :
    (∃ req sub, Grantable C cfg si tai home req sub) ∨
      (InScope si home ∧ TaAuthorised cfg tai ∧ httpCode = HttpStatusCode.ok ∧
        (si.requestedNssai = none ∨ si.subscribedNssai = none)) := by
  obtain ⟨v, hv⟩ := exists_registrationDecides C cfg si tai home
  rw [hv.handle_eq] at hok
  cases hv with
  | notSupported => simp [RegistrationVerdict.outcome] at hok
  | taNotAuthorised _ hta => exact absurd (hcode hok) hta
  | notInPlmn => simp [RegistrationVerdict.outcome] at hok
  | noAmfSet => simp [RegistrationVerdict.outcome] at hok
  | undecided hscope hta hnone => exact Or.inr ⟨hscope, hta, hok, hnone⟩
  | granted hscope hta hreq hsub hmatch hset =>
    exact Or.inl ⟨_, _, hscope, hta, hreq, hsub, hmatch, _, hset.mem, hset.holds⟩

/-- Without one of the two lists nothing is decided. -/
theorem undecided_outcome (hscope : InScope si home) (hta : TaAuthorised cfg tai)
    (hnone : si.requestedNssai = none ∨ si.subscribedNssai = none) (features : String)
    (httpCode : ℤ) (httpVersion : ℕ) (auth : AuthorizedNetworkSliceInfo) :
    handleSliceInfoForRegistration C cfg si tai home features httpCode httpVersion auth =
      ⟨true, httpCode, auth⟩ :=
  (RegistrationDecides.undecided hscope hta hnone).handle_eq features httpCode httpVersion auth

/-- Two requests that can be granted for the same requested list: the one with more subscribed
    S-NSSAIs is allowed what the other is allowed. -/
theorem Grantable.allowed_sublist {si' : SliceInfoForRegistration} {req : List Snssai}
    {sub sub' : List SubscribedSnssai} (h : Grantable C cfg si tai home req sub)
    (h' : Grantable C cfg' si' tai home req sub') (hsub : sub ⊆ sub') (features : String)
    (httpCode : ℤ) (httpVersion : ℕ) (auth : AuthorizedNetworkSliceInfo) :
    let out := handleSliceInfoForRegistration C cfg si tai home features httpCode httpVersion auth
    let out' := handleSliceInfoForRegistration C cfg' si' tai home features httpCode httpVersion
      auth
    out'.httpCode = HttpStatusCode.ok ∧
      (allowedSnssais out.authSliceInfo).Sublist (allowedSnssais out'.authSliceInfo) := by
  intro out out'
  obtain ⟨-, hallowed⟩ := h.outcome features httpCode httpVersion auth
  obtain ⟨hok', hallowed'⟩ := h'.outcome features httpCode httpVersion auth
  refine ⟨hok', ?_⟩
  rw [show allowedSnssais out.authSliceInfo = _ from hallowed,
    show allowedSnssais out'.authSliceInfo = _ from hallowed']
  exact filter_subscribed_sublist hsub req

/-- Two requests for which nothing is decided, both with a status 200 from before. -/
theorem allowed_sublist_of_undecided {si' : SliceInfoForRegistration} (hscope : InScope si home)
    (hscope' : InScope si' home) (hta : TaAuthorised cfg tai) (hta' : TaAuthorised cfg' tai)
    (hnone : si.requestedNssai = none ∨ si.subscribedNssai = none)
    (hnone' : si'.requestedNssai = none ∨ si'.subscribedNssai = none) (features : String)
    {httpCode : ℤ} (hstale : httpCode = HttpStatusCode.ok) (httpVersion : ℕ)
    (auth : AuthorizedNetworkSliceInfo) :
    let out := handleSliceInfoForRegistration C cfg si tai home features httpCode httpVersion auth
    let out' := handleSliceInfoForRegistration C cfg' si' tai home features httpCode httpVersion
      auth
    out'.httpCode = HttpStatusCode.ok ∧
      (allowedSnssais out.authSliceInfo).Sublist (allowedSnssais out'.authSliceInfo) := by
  intro out out'
  have hout : out = ⟨true, httpCode, auth⟩ :=
    undecided_outcome hscope hta hnone features httpCode httpVersion auth
  have hout' : out' = ⟨true, httpCode, auth⟩ :=
    undecided_outcome hscope' hta' hnone' features httpCode httpVersion auth
  rw [hout, hout']
  exact ⟨hstale, List.Sublist.refl _⟩

/-- A registration that ends with status 200 still does (a) on an extended configuration,
    also with further subscribed S-NSSAIs, where what was allowed is still allowed, and (b)
    with fewer requested S-NSSAIs, as long as one of them is subscribed. A status 200 that
    the handler is called with is left by the PDU-session handler, which has authorised the
    TAI. -/
theorem registration_monotone (features : String) {httpCode : ℤ} (httpVersion : ℕ)
    (auth : AuthorizedNetworkSliceInfo)
    (hcode : httpCode = HttpStatusCode.ok → TaAuthorised cfg tai)
    (hok : (handleSliceInfoForRegistration C cfg si tai home features httpCode httpVersion
      auth).httpCode = HttpStatusCode.ok) :
    (∀ cfg', ConfigExtends cfg cfg' →
      let out := handleSliceInfoForRegistration C cfg si tai home features httpCode httpVersion auth
      let out' := handleSliceInfoForRegistration C cfg' si tai home features httpCode httpVersion
        auth
      out'.httpCode = HttpStatusCode.ok ∧
        (allowedSnssais out.authSliceInfo).Sublist (allowedSnssais out'.authSliceInfo)) ∧
    (∀ cfg' sub sub', ConfigExtends cfg cfg' → si.subscribedNssai = some sub → sub.Sublist sub' →
      let out := handleSliceInfoForRegistration C cfg si tai home features httpCode httpVersion auth
      let out' := handleSliceInfoForRegistration C cfg' { si with subscribedNssai := some sub' }
        tai home features httpCode httpVersion auth
      out'.httpCode = HttpStatusCode.ok ∧
        (allowedSnssais out.authSliceInfo).Sublist (allowedSnssais out'.authSliceInfo)) ∧
    (∀ req req', si.requestedNssai = some req → req'.Sublist req →
      (∃ r ∈ req', Subscribed C (si.subscribedNssai.getD []) r) →
      (handleSliceInfoForRegistration C cfg { si with requestedNssai := some req' } tai home
        features httpCode httpVersion auth).httpCode = HttpStatusCode.ok) := by
  have hcases := grantable_of_ok features httpVersion auth hcode hok
  refine ⟨?_, ?_, ?_⟩
  · intro cfg' hext
    rcases hcases with ⟨req, sub, hgrant⟩ | ⟨hscope, hta, hstale, hnone⟩
    · exact hgrant.allowed_sublist (hgrant.mono hext) (List.Subset.refl sub) features httpCode
        httpVersion auth
    · exact allowed_sublist_of_undecided hscope hscope hta (hta.mono hext) hnone hnone features
        hstale httpVersion auth
  · intro cfg' sub₀ sub' hext hsub hsubset
    rcases hcases with ⟨req, sub, hgrant⟩ | ⟨hscope, hta, hstale, hnone⟩
    · rw [hgrant.subscribed, Option.some.injEq] at hsub
      subst hsub
      exact hgrant.allowed_sublist ((hgrant.mono hext).extend hsubset.subset) hsubset.subset
        features httpCode httpVersion auth
    · -- the requested list is the one that is missing
      have hreq : si.requestedNssai = none := hnone.resolve_right (by simp [hsub])
      have hscope' : InScope { si with subscribedNssai := some sub' } home :=
        hscope.congr rfl rfl
      exact allowed_sublist_of_undecided hscope hscope' hta (hta.mono hext) hnone (Or.inl hreq)
        features hstale httpVersion auth
  · intro req₀ req' hreq₀ hsubset hmatch'
    rcases hcases with ⟨req, sub, hgrant⟩ | ⟨hscope, hta, hstale, hnone⟩
    · rw [hgrant.requested, Option.some.injEq] at hreq₀
      subst hreq₀
      rw [hgrant.subscribed, Option.getD_some] at hmatch'
      exact ((hgrant.restrict hsubset.subset hmatch').outcome features httpCode httpVersion auth).1
    · have hsub : si.subscribedNssai = none := hnone.resolve_left (by simp [hreq₀])
      obtain ⟨r, hr, s, hs, hmatch⟩ := hmatch'
      simp [hsub] at hs

/-- An AMF set with a first AMF that serves nothing is put before the one that serves
    the request, whose AMF gets a further S-NSSAI. -/
theorem oneAmfConfig_extends :
    ConfigExtends (oneAmfConfig [⟨222, none⟩])
      { taInfoList := [{ tai := { tac := "1" } }]
        amfInfoList := { targetAmfSet := "set-0" } ::
          (oneAmfConfig [⟨1, none⟩, ⟨222, none⟩]).amfInfoList } where
  ta := List.nil_sublist _
  amf := by
    have hentry : EntryExtends { supportedSnssaiList := [⟨222, none⟩] }
        { supportedSnssaiList := [⟨1, none⟩, ⟨222, none⟩] } := ⟨rfl, by decide⟩
    refine List.SublistForall₂.cons_right (List.SublistForall₂.cons ⟨rfl, rfl, rfl, ?_⟩ .nil)
    exact List.SublistForall₂.cons ⟨rfl, List.SublistForall₂.cons hentry .nil⟩ .nil

theorem registration_monotone_sample :
    (handleSliceInfoForRegistration sampleCommon
      { taInfoList := [{ tai := { tac := "1" } }]
        amfInfoList := { targetAmfSet := "set-0" } ::
          (oneAmfConfig [⟨1, none⟩, ⟨222, none⟩]).amfInfoList }
      (registrationFor [⟨222, none⟩] [⟨222, none⟩, ⟨131, none⟩]) {} {} "" 0 1 {}).httpCode =
        HttpStatusCode.ok := by
  have hok : (handleSliceInfoForRegistration sampleCommon (oneAmfConfig [⟨222, none⟩])
      (registrationFor [⟨222, none⟩] [⟨222, none⟩]) {} {} "" 0 1 {}).httpCode =
      HttpStatusCode.ok := by decide
  have hcode : (0 : ℤ) = HttpStatusCode.ok → TaAuthorised (oneAmfConfig [⟨222, none⟩]) {} :=
    fun _ => Or.inl rfl
  obtain ⟨-, hinsert, -⟩ := registration_monotone "" 1 {} hcode hok
  exact (hinsert _ _ _ oneAmfConfig_extends rfl (by decide)).1

end OaiNssf.SliceSelect
