import OaiNssf.Selection.Correspondence

/-!
# Equivalent S-NSSAIs

`compare_snssai` compares the SSTs and, from the bound on, the values of `getSd()`
(`matches_iff`), so it is an equivalence. The selections look at an S-NSSAI through this
comparison only: when S-NSSAIs are replaced, position by position, in a way that changes
no comparison, the handlers return what they did.

* `ConfigReplaced`, `RequestReplaced`: the configurations and requests agree, up to the
  S-NSSAIs in them.
* `registration_congr`, `pduSession_congr`: results of replacements that keep the
  comparisons.
* `equivalent_snssais_interchangeable`: replacement by equivalent S-NSSAIs.
-/

namespace OaiNssf.SliceSelect

open Coverage

variable {C : Common}

/-! ## The comparison -/

/-- The values of `getSd()` are compared, or both SDs are unset and would be equal. -/
theorem matches_iff {a b : Snssai} :
    Matches C a b ↔
      a.sst = b.sst ∧ (C.sstMaxStandardizedValue ≤ a.sst → C.getSd a = C.getSd b) := by
  rw [compareSnssai_iff]
  apply and_congr_right
  intro _
  constructor
  · intro h hmax
    by_cases hset : a.sd.isSome ∨ b.sd.isSome
    · exact h hset hmax
    · -- neither SD is set, and both values are the one of an unset SD
      have hnone : a.sd = none ∧ b.sd = none := by simpa [not_or] using hset
      unfold Common.getSd
      rw [hnone.1, hnone.2]
  · intro h _ hmax
    exact h hmax

theorem Matches.symm {a b : Snssai} (h : Matches C a b) : Matches C b a := by
  obtain ⟨hsst, hsd⟩ := matches_iff.mp h
  refine matches_iff.mpr ⟨hsst.symm, ?_⟩
  intro hmax
  rw [← hsst] at hmax
  exact (hsd hmax).symm

/-- Transitivity, also through an S-NSSAI without an SD. -/
theorem Matches.trans {a b c : Snssai} (hab : Matches C a b) (hbc : Matches C b c) :
    Matches C a c := by
  obtain ⟨hsst, hsd⟩ := matches_iff.mp hab
  obtain ⟨hsst', hsd'⟩ := matches_iff.mp hbc
  refine matches_iff.mpr ⟨hsst.trans hsst', ?_⟩
  intro hmax
  have hmax' : C.sstMaxStandardizedValue ≤ b.sst := by omega
  exact (hsd hmax).trans (hsd' hmax')

theorem matches_equivalence (C : Common) : Equivalence (Matches C) :=
  ⟨Matches.refl, Matches.symm, Matches.trans⟩

/-! ## Replaced S-NSSAIs -/

section Replaced

variable (S T : Snssai → Snssai → Prop)

/-- The requests agree, up to `S` on the requested S-NSSAIs and `T` on the subscribed
    ones. -/
structure RequestReplaced (si si' : SliceInfoForRegistration) : Prop where
  requested : Option.Rel (List.Forall₂ S) si.requestedNssai si'.requestedNssai
  subscribed : Option.Rel
    (List.Forall₂ fun s s' => T s.subscribedSnssai s'.subscribedSnssai)
    si.subscribedNssai si'.subscribedNssai
  requestMapping : si.requestMappingIsSet = si'.requestMappingIsSet
  mappingOfNssai : si.mappingOfNssaiIsSet = si'.mappingOfNssaiIsSet

/-- The PDU-session requests agree, up to `S` on the S-NSSAI. -/
structure SessionReplaced (si si' : SliceInfoForPDUSession) : Prop where
  sNssai : S si.sNssai si'.sNssai
  roamingIndication : si.roamingIndication = si'.roamingIndication

/-- The availability entries agree, up to `T` on the supported S-NSSAIs. -/
structure EntryReplaced (d d' : SupportedNssaiAvailabilityData) : Prop where
  tai : d.tai = d'.tai
  supported : List.Forall₂ (fun e e' => T (nssaiTmp e) (nssaiTmp e'))
    d.supportedSnssaiList d'.supportedSnssaiList

/-- The AMFs agree, up to `T` on the supported S-NSSAIs. -/
structure AmfReplaced (a a' : String × List SupportedNssaiAvailabilityData) : Prop where
  nfId : a.1 = a'.1
  entries : List.Forall₂ (EntryReplaced T) a.2 a'.2

/-- The AMF sets agree, up to `T` on the supported S-NSSAIs. -/
structure SetReplaced (set set' : AmfInfo) : Prop extends SameNames set set' where
  amfs : List.Forall₂ (AmfReplaced T) set.amfList set'.amfList

/-- The network slice instances agree, up to `T` on the S-NSSAI. -/
structure NsiReplaced (item item' : NsiInfo) : Prop where
  snssai : T item.snssai item'.snssai
  nsiInfo : item.nsiInfo = item'.nsiInfo

/-- The configurations agree, up to `T` on the S-NSSAIs of the instances and of the
    AMFs. -/
structure ConfigReplaced (cfg cfg' : NssfConfig) : Prop where
  nsi : List.Forall₂ (NsiReplaced T) cfg.nsiInfoList cfg'.nsiInfoList
  ta : cfg.taInfoList = cfg'.taInfoList
  amf : List.Forall₂ (SetReplaced T) cfg.amfInfoList cfg'.amfInfoList

variable {S T}

/-- A reflexive relation allows to replace nothing. -/
theorem ConfigReplaced.refl (hT : ∀ x, T x x) (cfg : NssfConfig) : ConfigReplaced T cfg cfg where
  nsi := List.forall₂_same.mpr fun item _ => ⟨hT item.snssai, rfl⟩
  ta := rfl
  amf := by
    refine List.forall₂_same.mpr fun set _ => ⟨⟨rfl, rfl, rfl⟩, ?_⟩
    refine List.forall₂_same.mpr fun a _ => ⟨rfl, ?_⟩
    refine List.forall₂_same.mpr fun d _ => ⟨rfl, ?_⟩
    exact List.forall₂_same.mpr fun e _ => hT (nssaiTmp e)

theorem RequestReplaced.refl (hT : ∀ x, T x x) (si : SliceInfoForRegistration) :
    RequestReplaced T T si si where
  requested := by
    cases si.requestedNssai with
    | none => exact .none
    | some req => exact .some (List.forall₂_same.mpr fun r _ => hT r)
  subscribed := by
    cases si.subscribedNssai with
    | none => exact .none
    | some sub => exact .some (List.forall₂_same.mpr fun s _ => hT s.subscribedSnssai)
  requestMapping := rfl
  mappingOfNssai := rfl

/-- Replacements by a symmetric relation can be undone. -/
theorem EntryReplaced.symm {d d' : SupportedNssaiAvailabilityData} (h : EntryReplaced T d d')
    (hT : ∀ x x', T x x' → T x' x) : EntryReplaced T d' d where
  tai := h.tai.symm
  supported := (h.supported.imp fun _ _ he => hT _ _ he).flip

theorem AmfReplaced.symm {a a' : String × List SupportedNssaiAvailabilityData}
    (h : AmfReplaced T a a') (hT : ∀ x x', T x x' → T x' x) : AmfReplaced T a' a where
  nfId := h.nfId.symm
  entries := (h.entries.imp fun _ _ hd => hd.symm hT).flip

theorem SetReplaced.symm {set set' : AmfInfo} (h : SetReplaced T set set')
    (hT : ∀ x x', T x x' → T x' x) : SetReplaced T set' set where
  targetAmfSet := h.targetAmfSet.symm
  nrfAmfSet := h.nrfAmfSet.symm
  nrfAmfSetMgt := h.nrfAmfSetMgt.symm
  amfs := (h.amfs.imp fun _ _ ha => ha.symm hT).flip

theorem ConfigReplaced.symm {cfg cfg' : NssfConfig} (h : ConfigReplaced T cfg cfg')
    (hT : ∀ x x', T x x' → T x' x) : ConfigReplaced T cfg' cfg where
  nsi := (h.nsi.imp fun _ _ hi => NsiReplaced.mk (hT _ _ hi.snssai) hi.nsiInfo.symm).flip
  ta := h.ta.symm
  amf := (h.amf.imp fun _ _ hs => hs.symm hT).flip

theorem rel_forall₂_symm {α : Type} {R : α → α → Prop} {o o' : Option (List α)}
    (h : Option.Rel (List.Forall₂ R) o o') (hR : ∀ a b, R a b → R b a) :
    Option.Rel (List.Forall₂ R) o' o := by
  cases h with
  | none => exact .none
  | some hpos => exact .some (hpos.imp hR).flip

theorem RequestReplaced.symm {si si' : SliceInfoForRegistration} (h : RequestReplaced T T si si')
    (hT : ∀ x x', T x x' → T x' x) : RequestReplaced T T si' si where
  requested := rel_forall₂_symm h.requested hT
  subscribed := rel_forall₂_symm h.subscribed fun _ _ hs => hT _ _ hs
  requestMapping := h.requestMapping.symm
  mappingOfNssai := h.mappingOfNssai.symm

end Replaced

section Congruence

variable {S T : Snssai → Snssai → Prop} {cfg cfg' : NssfConfig}
  {si si' : SliceInfoForRegistration} {tai : Tai} {home : PlmnId}

theorem AmfReplaced.offers {a a' : String × List SupportedNssaiAvailabilityData}
    (h : AmfReplaced T a a') : OffersAlike T a.2 a'.2 :=
  Alike.of_forall₂ (h.entries.imp fun _ _ hd => Alike.of_forall₂ hd.supported)

theorem RequestReplaced.inScope_iff (h : RequestReplaced S T si si') :
    InScope si home ↔ InScope si' home := by
  constructor
  · intro hscope
    exact hscope.congr h.requestMapping h.mappingOfNssai
  · intro hscope
    exact hscope.congr h.requestMapping.symm h.mappingOfNssai.symm

/-- Lists are missing or given on both sides alike. -/
theorem RequestReplaced.missing_or_given (h : RequestReplaced S T si si') :
    ((si.requestedNssai = none ∨ si.subscribedNssai = none) ∧
      (si'.requestedNssai = none ∨ si'.subscribedNssai = none)) ∨
    ∃ req req' sub sub', si.requestedNssai = some req ∧ si'.requestedNssai = some req' ∧
      si.subscribedNssai = some sub ∧ si'.subscribedNssai = some sub' ∧
      List.Forall₂ S req req' ∧
      List.Forall₂ (fun s s' => T s.subscribedSnssai s'.subscribedSnssai) sub sub' := by
  have hrequested := h.requested
  have hsubscribed := h.subscribed
  generalize hreq : si.requestedNssai = requested at hrequested
  generalize hreq' : si'.requestedNssai = requested' at hrequested
  generalize hsub : si.subscribedNssai = subscribed at hsubscribed
  generalize hsub' : si'.subscribedNssai = subscribed' at hsubscribed
  cases hrequested with
  | none => exact Or.inl ⟨Or.inl rfl, Or.inl rfl⟩
  | @some req req' hpos =>
    cases hsubscribed with
    | none => exact Or.inl ⟨Or.inr rfl, Or.inr rfl⟩
    | @some sub sub' hsubpos =>
      exact Or.inr ⟨req, req', sub, sub', rfl, rfl, rfl, rfl, hpos, hsubpos⟩

theorem SessionReplaced.nonRoaming_iff {ps ps' : SliceInfoForPDUSession}
    (h : SessionReplaced S ps ps') : NonRoaming C ps home ↔ NonRoaming C ps' home := by
  constructor
  · intro hroam
    exact ⟨h.roamingIndication ▸ hroam.indication, hroam.noHomePlmn⟩
  · intro hroam
    exact ⟨h.roamingIndication ▸ hroam.indication, hroam.noHomePlmn⟩

section Comparisons

variable (hST : ∀ r r' x x', S r r' → T x x' → (Matches C r x ↔ Matches C r' x'))
include hST

theorem SetReplaced.alike {req req' : List Snssai} {set set' : AmfInfo}
    (h : SetReplaced T set set') (hreq : List.Forall₂ S req req') :
    SetsAlike C Eq req req' set set' := by
  have hserving : servingAmfs C req set = servingAmfs C req' set' := by
    refine servingAmfs_congr (h.amfs.imp fun amf amf' hamf => ⟨hamf.nfId, ?_⟩)
    exact servesNssai_congr hST (Alike.of_forall₂ hreq) hamf.offers
  exact ⟨h.toSameNames, hasServingAmf_iff_of_eq hserving, hserving⟩

theorem RequestReplaced.lists (hsi : RequestReplaced S T si si')
    (hcfg : ConfigReplaced T cfg cfg') :
    ListsAlike C (List.Forall₂ S) (List.Forall₂ S) Eq cfg cfg' si si' := by
  rcases hsi.missing_or_given with
    ⟨hnone, hnone'⟩ | ⟨req, req', sub, sub', hreq, hreq', hsub, hsub', hpos, hsubpos⟩
  · exact .missing hnone hnone'
  · have hsubscribed_iff : ∀ r r', S r r' → (Subscribed C sub r ↔ Subscribed C sub' r') := by
      intro r r' hr
      exact subscribed_congr hST hr (Alike.of_forall₂ hsubpos)
    have hmatch : (∃ r ∈ req, Subscribed C sub r) ↔ ∃ r ∈ req', Subscribed C sub' r :=
      (Alike.of_forall₂ hpos).exists_mem_iff hsubscribed_iff
    have hallowed : List.Forall₂ S (matchedSnssai C sub req) (matchedSnssai C sub' req') := by
      apply List.rel_filter _ hpos
      intro r r' hr
      simpa only [snssaiMatched_iff] using hsubscribed_iff r r' hr
    have hsets : List.Forall₂ (SetsAlike C Eq req req') cfg.amfInfoList cfg'.amfInfoList :=
      hcfg.amf.imp fun set set' hset => hset.alike hST hpos
    exact .given hreq hsub hreq' hsub' hpos hmatch hallowed hsets

/-- Replacements that keep every comparison keep the result of a registration, up to
    the S-NSSAIs repeated in it. -/
theorem registration_congr (hcfg : ConfigReplaced T cfg cfg') (hsi : RequestReplaced S T si si')
    (features : String) (httpCode : ℤ) (httpVersion : ℕ) (auth : AuthorizedNetworkSliceInfo) :
    OutcomesAlike (List.Forall₂ S) (List.Forall₂ S) Eq auth
      (handleSliceInfoForRegistration C cfg si tai home features httpCode httpVersion auth)
      (handleSliceInfoForRegistration C cfg' si' tai home features httpCode httpVersion auth) := by
  have halike : RegistrationsAlike C (List.Forall₂ S) (List.Forall₂ S) Eq cfg cfg' si si' tai
      home :=
    ⟨hsi.inScope_iff, taAuthorised_congr hcfg.ta, fun _ _ => hsi.lists hST hcfg⟩
  exact halike.outcomes features httpCode httpVersion auth

/-- Replacements that keep every comparison keep the result for a PDU session, which
    does not depend on the AMFs. -/
theorem pduSession_congr {ps ps' : SliceInfoForPDUSession}
    (hnsiList : List.Forall₂ (NsiReplaced T) cfg.nsiInfoList cfg'.nsiInfoList)
    (htaList : cfg.taInfoList = cfg'.taInfoList) (hps : SessionReplaced S ps ps')
    (features : String) (httpCode : ℤ) (httpVersion : ℕ) (auth : AuthorizedNetworkSliceInfo) :
    handleSliceInfoForPduSession C cfg ps tai home features httpCode httpVersion auth =
      handleSliceInfoForPduSession C cfg' ps' tai home features httpCode httpVersion auth := by
  have hroam_iff : NonRoaming C ps home ↔ NonRoaming C ps' home := hps.nonRoaming_iff
  have hta_iff : TaAuthorised cfg tai ↔ TaAuthorised cfg' tai := taAuthorised_congr htaList
  have hitem_iff : ∀ item item', NsiReplaced T item item' →
      (Matches C ps.sNssai item.snssai ↔ Matches C ps'.sNssai item'.snssai) :=
    fun _ _ hitem => hST _ _ _ _ hps.sNssai hitem.snssai
  obtain ⟨v, hv⟩ := exists_pduSessionDecides C cfg ps tai home
  cases hv with
  | notSupported hroam =>
    rw [(PduSessionDecides.notSupported hroam).handle_eq,
      (PduSessionDecides.notSupported (mt hroam_iff.mpr hroam)).handle_eq]
  | taNotAuthorised hroam hta =>
    have hta' : ¬TaAuthorised cfg' tai := mt hta_iff.mpr hta
    rw [(PduSessionDecides.taNotAuthorised hroam hta).handle_eq,
      (PduSessionDecides.taNotAuthorised (hroam_iff.mp hroam) hta').handle_eq]
  | noNsi hroam hta hnsi =>
    have hta' : TaAuthorised cfg' tai := hta_iff.mp hta
    have hnsi' : ∀ item ∈ cfg'.nsiInfoList, ¬Matches C ps'.sNssai item.snssai := by
      intro item' hmem' hmatch
      obtain ⟨item, hmem, hitem⟩ := (Alike.of_forall₂ hnsiList).right item' hmem'
      exact hnsi item hmem ((hitem_iff item item' hitem).mpr hmatch)
    rw [(PduSessionDecides.noNsi hroam hta hnsi).handle_eq,
      (PduSessionDecides.noNsi (hroam_iff.mp hroam) hta' hnsi').handle_eq]
  | granted hroam hta hnsi =>
    have hta' : TaAuthorised cfg' tai := hta_iff.mp hta
    obtain ⟨item', hnsi', hitem⟩ := hnsi.forall₂ hnsiList hitem_iff
    rw [(PduSessionDecides.granted hroam hta hnsi).handle_eq,
      (PduSessionDecides.granted (hroam_iff.mp hroam) hta' hnsi').handle_eq, hitem.nsiInfo]

end Comparisons

end Congruence

/-! ## Equivalent S-NSSAIs -/

/-- `compare_snssai` is an equivalence, and the handlers do not tell equivalent S-NSSAIs
    apart: replacing them, position by position, in the request and the configuration
    leaves the result for a PDU session as it is, and that of a registration up to
    equivalence in the Allowed NSSAI and the rejected list. -/
theorem equivalent_snssais_interchangeable (C : Common) :
    Equivalence (fun a b => compareSnssai C a b = true) ∧
      ∀ cfg cfg', ConfigReplaced (Matches C) cfg cfg' →
        ∀ (tai : Tai) (home : PlmnId) (features : String) (httpCode : ℤ) (httpVersion : ℕ)
          (auth : AuthorizedNetworkSliceInfo),
          (∀ si si', RequestReplaced (Matches C) (Matches C) si si' →
            OutcomesAlike (List.Forall₂ (Matches C)) (List.Forall₂ (Matches C)) Eq auth
              (handleSliceInfoForRegistration C cfg si tai home features httpCode httpVersion auth)
              (handleSliceInfoForRegistration C cfg' si' tai home features httpCode httpVersion
                auth)) ∧
          ∀ ps ps', SessionReplaced (Matches C) ps ps' →
            handleSliceInfoForPduSession C cfg ps tai home features httpCode httpVersion auth =
              handleSliceInfoForPduSession C cfg' ps' tai home features httpCode httpVersion
                auth := by
  have hST : ∀ r r' x x', Matches C r r' → Matches C x x' →
      (Matches C r x ↔ Matches C r' x') := by
    intro r r' x x' hr hx
    constructor
    · intro h
      exact (hr.symm.trans h).trans hx
    · intro h
      exact (hr.trans h).trans hx.symm
  refine ⟨matches_equivalence C, ?_⟩
  intro cfg cfg' hcfg tai home features httpCode httpVersion auth
  refine ⟨?_, ?_⟩
  · intro si si' hsi
    exact registration_congr hST hcfg hsi features httpCode httpVersion auth
  · intro ps ps' hps
    exact pduSession_congr hST hcfg.nsi hcfg.ta hps features httpCode httpVersion auth

end OaiNssf.SliceSelect
