import OaiNssf.Config.Reading

/-!
# What the section parsers keep

A section parser pushes one entry after the other to its list, until an exception ends
its loop. What it pushes for an entry is made from the nodes of that entry alone.

* `KeepsGoodPrefix`: the list has grown by the translations of the longest prefix of
  entries that translate, and the parser returns whether that is all of them.
* `NsiOf`, `TaOf`, `AmfSetOf`: what an entry translates to, field by field; an optional
  field is the one of its own node (`FieldOf`), and unset when that is missing.
* `amfSetEntry_succeeds_iff_fields`: when an AMF set translates.
* `section_parsers_keep_good_prefix`: the three parsers.
-/

namespace OaiNssf.Config

open Throwing

variable {Node : Type}

section Spec

variable (Y : Yaml Node)

/-- A parser that translates entries by `body`, on a section with these entries and on
    the list `prior`: what it returns and leaves. -/
def KeepsGoodPrefix {β : Type} (body : Node → Except StdException β) (entries : List Node)
    (prior : List β) (out : Bool × List β) : Prop :=
  ∃ good items, LongestPrefix body entries good items ∧ out.2 = prior ++ items ∧
    (out.1 = true ↔ good = entries)

/-! ## Translations -/

/-- The optional field at this key of the node: unset, or what the key holds. -/
def FieldOf (node : Node) (key : String) (field : Option String) : Prop :=
  ∃ value, Y.get node key = .ok value ∧
    ((Y.isDefined value = false ∧ field = none) ∨
      (Y.isDefined value = true ∧ ∃ s, Y.asString value = .ok s ∧ field = some s))

/-- The network slice instance of an entry. -/
def NsiOf (nsiInfo : Node) (item : NsiInfo) : Prop :=
  ∃ info snssai, Y.get nsiInfo "nsiInformationList" = .ok info ∧
    Y.get nsiInfo "snssai" = .ok snssai ∧ stringAt Y info "nrfId" = .ok item.nsiInfo.nrfId ∧
    FieldOf Y info "nsiId" item.nsiInfo.nsiId ∧
    FieldOf Y info "nrfNfMgtUri" item.nsiInfo.nrfNfMgtUri ∧
    int32At Y snssai "sst" = .ok item.snssai.sst ∧ FieldOf Y snssai "sd" item.snssai.sd

/-- The TAI of a node, with all its fields. -/
def TaiOf (tai : Node) (t : Tai) : Prop :=
  ∃ plmnId, Y.get tai "plmnId" = .ok plmnId ∧ stringAt Y plmnId "mcc" = .ok t.plmnId.mcc ∧
    stringAt Y plmnId "mnc" = .ok t.plmnId.mnc ∧ stringAt Y tai "tac" = .ok t.tac

/-- The tracking area of an entry, without supported S-NSSAIs. -/
def TaOf (taInfo : Node) (item : TaInfo) : Prop :=
  (∃ tai, Y.get taInfo "tai" = .ok tai ∧ TaiOf Y tai item.tai) ∧ item.supoortedSnssai = []

/-- The supported S-NSSAI of a node. -/
def ExtSnssaiOf (snssai : Node) (e : ExtSnssai) : Prop :=
  int32At Y snssai "sst" = .ok e.sst ∧ FieldOf Y snssai "sd" e.sd

/-- The TAI of availability data: read from its node without the MNC, or the one of a fresh
    record where it cannot be read. -/
def NssaiTaiOf (conf : Node) (t : Tai) : Prop :=
  (∃ tai plmnId, Y.get conf "tai" = .ok tai ∧ Y.get tai "plmnId" = .ok plmnId ∧
    stringAt Y plmnId "mcc" = .ok t.plmnId.mcc ∧ t.plmnId.mnc = "" ∧
    stringAt Y tai "tac" = .ok t.tac) ∨
  (¬NssaiTaiReadable Y conf ∧ t = {})

/-- The supported list at a node: one S-NSSAI for each element. -/
def ExtSnssaisOf (conf : Node) (supported : List ExtSnssai) : Prop :=
  ∃ slices, Y.get conf "supportedSnssaiList" = .ok slices ∧
    List.Forall₂ (ExtSnssaiOf Y) (Y.children slices) supported

/-- The supported list of availability data: all of it if the data is readable, else none. -/
def SupportedOf (conf : Node) (supported : List ExtSnssai) : Prop :=
  (NssaiReadable Y conf ∧ ExtSnssaisOf Y conf supported) ∨
    (¬NssaiReadable Y conf ∧ supported = [])

/-- The AMF of a node, with one availability entry. -/
def AmfOf (amf : Node) (a : String × List SupportedNssaiAvailabilityData) : Prop :=
  stringAt Y amf "nfId" = .ok a.1 ∧
    ∃ conf data, Y.get amf "supportedNssaiAvailabilityData" = .ok conf ∧ a.2 = [data] ∧
      NssaiTaiOf Y conf data.tai ∧ SupportedOf Y conf data.supportedSnssaiList

/-- The AMF set of an entry, with an AMF for each node of its list. -/
def AmfSetOf (amfInfo : Node) (set : AmfInfo) : Prop :=
  stringAt Y amfInfo "targetAmfSet" = .ok set.targetAmfSet ∧
    stringAt Y amfInfo "nrfAmfSet" = .ok set.nrfAmfSet ∧
    stringAt Y amfInfo "nrfAmfSetNfMgtUri" = .ok set.nrfAmfSetMgt ∧
    ∃ amfs, Y.get amfInfo "amfList" = .ok amfs ∧
      List.Forall₂ (AmfOf Y) (Y.children amfs) set.amfList

end Spec

variable {Y : Yaml Node}

theorem optionalStringAt_eq_ok_iff {node : Node} {key : String} {field : Option String} :
    optionalStringAt Y node key = .ok field ↔ FieldOf Y node key field := by
  unfold optionalStringAt FieldOf stringAt
  rw [Decoding.bind_eq_ok_iff]
  refine exists_congr fun value => and_congr_right fun hvalue => ?_
  cases hdefined : Y.isDefined value with
  | false =>
    simp only [Bool.false_eq_true, if_false, false_and, or_false, true_and]
    exact Decoding.pure_eq_ok_iff
  | true =>
    simp only [if_true, hvalue, ok_bind, Bool.true_eq_false, false_and, false_or, true_and,
      Decoding.bind_eq_ok_iff]
    exact exists_congr fun s => and_congr_right fun _ => Decoding.pure_eq_ok_iff

theorem extSnssaiOf_of_ok {snssai : Node} {e : ExtSnssai} (h : extSnssaiEntry Y snssai = .ok e) :
    ExtSnssaiOf Y snssai e := by
  unfold extSnssaiEntry at h
  simp only [Decoding.bind_eq_ok_iff] at h
  obtain ⟨sst, hsst, sd, hsd, heq⟩ := h
  cases heq
  exact ⟨hsst, optionalStringAt_eq_ok_iff.mp hsd⟩

/-- Every optional field of an instance is read from its own entry. -/
theorem nsiOf_of_ok {nsiInfo : Node} {item : NsiInfo} (h : nsiEntry Y nsiInfo = .ok item) :
    NsiOf Y nsiInfo item := by
  unfold nsiEntry at h
  cases hinfo : Y.get nsiInfo "nsiInformationList" with
  | error e =>
    rw [hinfo] at h
    cases h
  | ok info =>
    simp only [hinfo, ok_bind, Decoding.bind_eq_ok_iff] at h
    obtain ⟨nrfId, hnrfId, nsiId, hnsiId, mgt, hmgt, snssai, hsnssai, sst, hsst, h⟩ := h
    -- the node of the S-NSSAI is looked up twice
    obtain ⟨snssai', hsnssai', sd, hsd, heq⟩ := h
    rw [hsnssai] at hsnssai'
    cases hsnssai'
    cases heq
    exact ⟨info, snssai, hinfo, hsnssai, hnrfId, optionalStringAt_eq_ok_iff.mp hnsiId,
      optionalStringAt_eq_ok_iff.mp hmgt, hsst, optionalStringAt_eq_ok_iff.mp hsd⟩

theorem taOf_of_ok {taInfo : Node} {item : TaInfo} (h : taEntry Y taInfo = .ok item) :
    TaOf Y taInfo item := by
  unfold taEntry at h
  cases htai : Y.get taInfo "tai" with
  | error e =>
    rw [htai] at h
    cases h
  | ok tai =>
    cases hplmnId : Y.get tai "plmnId" with
    | error e =>
      rw [htai, ok_bind, hplmnId] at h
      cases h
    | ok plmnId =>
      simp only [htai, ok_bind, hplmnId, Decoding.bind_eq_ok_iff] at h
      obtain ⟨mcc, hmcc, mnc, hmnc, tac, htac, heq⟩ := h
      cases heq
      exact ⟨⟨tai, htai, plmnId, hplmnId, hmcc, hmnc, htac⟩, rfl⟩

theorem nssaiTai_eq_ok {conf : Node} {t : Tai} (h : nssaiTai Y conf = .ok t) :
    ∃ tai plmnId, Y.get conf "tai" = .ok tai ∧ Y.get tai "plmnId" = .ok plmnId ∧
      stringAt Y plmnId "mcc" = .ok t.plmnId.mcc ∧ t.plmnId.mnc = "" ∧
      stringAt Y tai "tac" = .ok t.tac := by
  unfold nssaiTai at h
  cases htai : Y.get conf "tai" with
  | error e =>
    rw [htai] at h
    cases h
  | ok tai =>
    simp only [htai, ok_bind, Decoding.bind_eq_ok_iff] at h
    obtain ⟨tac, htac, plmnId, hplmnId, mcc, -, plmnId', hplmnId', mcc', hmcc, heq⟩ := h
    rw [hplmnId] at hplmnId'
    cases hplmnId'
    cases heq
    exact ⟨tai, plmnId, rfl, hplmnId, hmcc, rfl, htac⟩

theorem supportedSnssaiList_eq_ok {conf : Node} {supported : List ExtSnssai}
    (h : supportedSnssaiList Y conf = .ok supported) : ExtSnssaisOf Y conf supported := by
  unfold supportedSnssaiList at h
  simp only [Decoding.bind_eq_ok_iff] at h
  obtain ⟨slices, hslices, u, hexit, heq⟩ := h
  have hall := (pushEach_fst_eq_ok_iff (Y.children slices) []).mp hexit
  cases heq
  refine ⟨slices, hslices, ?_⟩
  show List.Forall₂ _ _ (pushEach (extSnssaiEntry Y) (Y.children slices) []).2
  rw [pushEach_snd, List.nil_append]
  exact (translates_goodPrefix hall).forall₂ fun _ _ _ he => extSnssaiOf_of_ok he

/-- What `parse_nssai` leaves in a fresh record: the TAI is stored before the list is read,
    the list after all of it. -/
theorem parseNssai_snd_of (conf : Node) :
    NssaiTaiOf Y conf (parseNssai Y conf {}).2.tai ∧
      SupportedOf Y conf (parseNssai Y conf {}).2.supportedSnssaiList := by
  have hreadable := parseNssai_fst_iff (Y := Y) conf {}
  unfold NssaiTaiOf SupportedOf
  rw [← hreadable, ← nssaiTai_succeeds_iff]
  unfold parseNssai
  cases htai : nssaiTai Y conf with
  | error e => exact ⟨Or.inr ⟨not_succeeds_error e, rfl⟩, Or.inr ⟨Bool.false_ne_true, rfl⟩⟩
  | ok t =>
    cases hlist : supportedSnssaiList Y conf with
    | error e => exact ⟨Or.inl (nssaiTai_eq_ok htai), Or.inr ⟨Bool.false_ne_true, rfl⟩⟩
    | ok supported =>
      exact ⟨Or.inl (nssaiTai_eq_ok htai), Or.inl ⟨rfl, supportedSnssaiList_eq_ok hlist⟩⟩

theorem amfOf_of_ok {amf : Node} {a : String × List SupportedNssaiAvailabilityData}
    (h : amfEntry Y amf = .ok a) : AmfOf Y amf a := by
  obtain ⟨conf, nfId, hconf, hnfId, rfl⟩ := amfEntry_eq_ok_iff.mp h
  exact ⟨hnfId, conf, (parseNssai Y conf {}).2, hconf, rfl, parseNssai_snd_of conf⟩

theorem amfSetOf_of_ok {amfInfo : Node} {set : AmfInfo} (h : amfSetEntry Y amfInfo = .ok set) :
    AmfSetOf Y amfInfo set := by
  obtain ⟨htarget, hnrf, hmgt, amfs, hamfs, hall, hlist⟩ := amfSetEntry_eq_ok_iff.mp h
  refine ⟨htarget, hnrf, hmgt, amfs, hamfs, ?_⟩
  rw [hlist]
  exact (translates_goodPrefix hall).forall₂ fun _ _ _ ha => amfOf_of_ok ha

/-- An AMF set translates when its names are there, and for each of its AMFs the `nfId`
    and a node of availability data, readable or not. -/
theorem amfSetEntry_succeeds_iff_fields (amfInfo : Node) :
    Succeeds (amfSetEntry Y amfInfo) ↔
      Succeeds (stringAt Y amfInfo "targetAmfSet") ∧ Succeeds (stringAt Y amfInfo "nrfAmfSet") ∧
        Succeeds (stringAt Y amfInfo "nrfAmfSetNfMgtUri") ∧
        ∃ amfs, Y.get amfInfo "amfList" = .ok amfs ∧ ∀ amf ∈ Y.children amfs,
          Succeeds (Y.get amf "supportedNssaiAvailabilityData") ∧
            Succeeds (stringAt Y amf "nfId") := by
  rw [amfSetEntry_succeeds_iff, AmfSetNamed, and_assoc, and_assoc, and_assoc]
  refine and_congr_right fun _ => and_congr_right fun _ => and_congr_right fun _ => ?_
  simp only [amfEntry_succeeds_iff]
  constructor
  · rintro ⟨⟨amfs, hamfs⟩, hall⟩
    exact ⟨amfs, hamfs, hall amfs hamfs⟩
  · rintro ⟨amfs, hamfs, hall⟩
    refine ⟨⟨amfs, hamfs⟩, ?_⟩
    intro amfs' hamfs'
    rw [hamfs] at hamfs'
    cases hamfs'
    exact hall

/-! ## Parsers -/

theorem keepsGoodPrefix_pushEach {β : Type} (body : Node → Except StdException β)
    (entries : List Node) (prior : List β) :
    KeepsGoodPrefix body entries prior
      (caught (pushEach body entries prior).1, (pushEach body entries prior).2) := by
  obtain ⟨good, items, hgood, hlist, hexit⟩ : ∃ good items, LongestPrefix body entries good items ∧
      (pushEach body entries prior).2 = prior ++ items ∧
      ((pushEach body entries prior).1 = .ok () ↔ good = entries) :=
    pushEach_longestPrefix entries prior
  refine ⟨good, items, hgood, hlist, ?_⟩
  rw [caught_iff, succeeds_unit_iff, hexit]

/-- A parser that meets a failing entry returns `false`, with the translations of the
    entries before it and nothing else. -/
theorem KeepsGoodPrefix.of_failing {β : Type} {body : Node → Except StdException β}
    {pre post : List Node} {bad : Node} {prior : List β} {out : Bool × List β}
    (h : KeepsGoodPrefix body (pre ++ bad :: post) prior out)
    (hpre : ∀ a ∈ pre, Succeeds (body a)) (hbad : ¬Succeeds (body bad)) :
    ∃ items, Translates body pre items ∧ out = (false, prior ++ items) := by
  obtain ⟨good, items, hgood, hlist, hexit⟩ := h
  have hle : pre <+: good := hgood.longest pre (List.prefix_append pre _) hpre
  have hgood_eq : good = pre := by
    obtain ⟨rest, rfl⟩ := hle
    cases rest with
    | nil => rw [List.append_nil]
    | cons a rest =>
      -- past `pre` comes the failing entry
      have hhead : a :: rest <+: bad :: post :=
        (List.prefix_append_right_inj pre).mp hgood.isPrefix
      obtain ⟨rfl, -⟩ := List.cons_prefix_cons.mp hhead
      exact absurd (hgood.translates.succeeds a (by simp)) hbad
  have hne : out.1 = false := by
    rw [Bool.eq_false_iff]
    intro htrue
    have hlength := congrArg List.length (hgood_eq ▸ hexit.mp htrue)
    simp at hlength
  exact ⟨items, hgood_eq ▸ hgood.translates, Prod.ext hne hlist⟩

/-- Each of the three section parsers leaves its list with the translations of the
    longest prefix of entries that translate appended, and returns whether these are all.
    An instance or a tracking area translates when its fields are readable. An AMF set
    without its names, its URIs or the `nfId` of an AMF does not translate: it ends the loop
    and leaves nothing of itself. And what an entry translates to, optional fields and
    availability data included, is read from the nodes of that entry. -/
theorem section_parsers_keep_good_prefix (Y : Yaml Node) (conf : Node) :
    (∀ prior, KeepsGoodPrefix (nsiEntry Y) (Y.children conf) prior (parseNsiInfo Y conf prior)) ∧
    (∀ prior, KeepsGoodPrefix (taEntry Y) (Y.children conf) prior (parseTaInfo Y conf prior)) ∧
    (∀ prior, KeepsGoodPrefix (amfSetEntry Y) (Y.children conf) prior
      (parseAmfInfo Y conf prior)) ∧
    (∀ nsiInfo, Succeeds (nsiEntry Y nsiInfo) ↔ NsiReadable Y nsiInfo) ∧
    (∀ taInfo, Succeeds (taEntry Y taInfo) ↔ TaReadable Y taInfo) ∧
    (∀ amfInfo, Succeeds (amfSetEntry Y amfInfo) ↔
      Succeeds (stringAt Y amfInfo "targetAmfSet") ∧ Succeeds (stringAt Y amfInfo "nrfAmfSet") ∧
        Succeeds (stringAt Y amfInfo "nrfAmfSetNfMgtUri") ∧
        ∃ amfs, Y.get amfInfo "amfList" = .ok amfs ∧ ∀ amf ∈ Y.children amfs,
          Succeeds (Y.get amf "supportedNssaiAvailabilityData") ∧
            Succeeds (stringAt Y amf "nfId")) ∧
    (∀ prior pre bad post, Y.children conf = pre ++ bad :: post →
      (∀ amfInfo ∈ pre, Succeeds (amfSetEntry Y amfInfo)) → ¬Succeeds (amfSetEntry Y bad) →
      ∃ sets, Translates (amfSetEntry Y) pre sets ∧
        parseAmfInfo Y conf prior = (false, prior ++ sets)) ∧
    (∀ nsiInfo item, nsiEntry Y nsiInfo = .ok item → NsiOf Y nsiInfo item) ∧
    (∀ taInfo item, taEntry Y taInfo = .ok item → TaOf Y taInfo item) ∧
    ∀ amfInfo set, amfSetEntry Y amfInfo = .ok set → AmfSetOf Y amfInfo set := by
  have hamf : ∀ prior, KeepsGoodPrefix (amfSetEntry Y) (Y.children conf) prior
      (parseAmfInfo Y conf prior) := fun prior => keepsGoodPrefix_pushEach _ _ prior
  refine ⟨fun prior => keepsGoodPrefix_pushEach _ _ prior,
    fun prior => keepsGoodPrefix_pushEach _ _ prior, hamf, nsiEntry_succeeds_iff,
    taEntry_succeeds_iff, amfSetEntry_succeeds_iff_fields, ?_, fun _ _ => nsiOf_of_ok,
    fun _ _ => taOf_of_ok, fun _ _ => amfSetOf_of_ok⟩
  intro prior pre bad post hentries hpre hbad
  have hkeeps := hamf prior
  rw [hentries] at hkeeps
  exact hkeeps.of_failing hpre hbad

end OaiNssf.Config
