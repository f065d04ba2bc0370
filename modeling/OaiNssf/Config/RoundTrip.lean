import OaiNssf.Config.Reading
import OaiNssf.Config.Tree

/-!
# Loading a written slice configuration

The document of a slice configuration, loaded on empty lists, gives back every field
but two: the MNC of an AMF's TAI, since `parse_nssai` sets the MCC twice, and the
supported S-NSSAIs of a tracking area, which no parser reads.

* `nsiEntry_write`, `taEntry_write`, `amfEntry_write`, `amfSetEntry_write`: what each
  entry is loaded as.
* `parseConfig_write`: what the document is loaded as.
* `config_round_trip_iff`: which configurations are loaded as they were written.
-/

namespace OaiNssf.Config

open Throwing

variable {Node : Type} {Y : Yaml Node} {node : Tree → Node}

/-! ## Fields -/

section Fields

variable (hY : Y.Loads node) {fields : List (String × Tree)} {key : String}

include hY

theorem stringAt_map {s : String} (h : fields.lookup key = some (.str s)) :
    stringAt Y (node (.map fields)) key = .ok s := by
  rw [stringAt, hY.get_map h, ok_bind, hY.asString_str]

theorem int32At_map {i : ℤ} (hi : IsInt32 i) (h : fields.lookup key = some (.int i)) :
    int32At Y (node (.map fields)) key = .ok i := by
  rw [int32At, hY.get_map h, ok_bind, hY.asInt32_int i hi]

theorem optionalStringAt_map {o : Option String} (h : fields.lookup key = o.map Tree.str) :
    optionalStringAt Y (node (.map fields)) key = .ok o := by
  unfold optionalStringAt
  cases o with
  | none =>
    obtain ⟨undefined, hget, hundefined⟩ := hY.get_missing h
    rw [hget, ok_bind, hundefined]
    rfl
  | some s =>
    rw [hY.get_map h, ok_bind, if_pos (hY.isDefined_node _), stringAt_map hY h]
    rfl

end Fields

theorem lookup_optionalField (key : String) (o : Option String) :
    (optionalField key o).lookup key = o.map Tree.str := by
  cases o with
  | none => rfl
  | some s => simp [optionalField]

/-! ## Entries -/

section Entries

variable (hY : Y.Loads node)

include hY

theorem extSnssaiEntry_write {snssai : ExtSnssai} (hsst : IsInt32 snssai.sst) :
    extSnssaiEntry Y (node (writeSnssai snssai.sst snssai.sd)) = .ok snssai := by
  have hsd : (("sst", Tree.int snssai.sst) :: optionalField "sd" snssai.sd).lookup "sd" =
      snssai.sd.map Tree.str := lookup_optionalField "sd" snssai.sd
  rw [extSnssaiEntry, writeSnssai, int32At_map hY hsst rfl, ok_bind, optionalStringAt_map hY hsd]
  rfl

theorem nsiEntry_write {item : NsiInfo} (hsst : IsInt32 item.snssai.sst) :
    nsiEntry Y (node (writeNsi item)) = .ok item := by
  obtain ⟨⟨sst, sd⟩, nrfId, nsiId, nrfNfMgtUri⟩ := item
  have hsd : (("sst", Tree.int sst) :: optionalField "sd" sd).lookup "sd" = sd.map Tree.str :=
    lookup_optionalField "sd" sd
  have hnsiId : (("nrfId", Tree.str nrfId) ::
      (optionalField "nsiId" nsiId ++ optionalField "nrfNfMgtUri" nrfNfMgtUri)).lookup "nsiId" =
      nsiId.map Tree.str := by
    cases nsiId <;> cases nrfNfMgtUri <;> rfl
  have huri : (("nrfId", Tree.str nrfId) ::
      (optionalField "nsiId" nsiId ++ optionalField "nrfNfMgtUri" nrfNfMgtUri)).lookup
        "nrfNfMgtUri" = nrfNfMgtUri.map Tree.str := by
    cases nsiId <;> cases nrfNfMgtUri <;> rfl
  have hinfo : Y.get (node (writeNsi ⟨⟨sst, sd⟩, nrfId, nsiId, nrfNfMgtUri⟩)) "nsiInformationList" =
      .ok (node (.map (("nrfId", .str nrfId) ::
        (optionalField "nsiId" nsiId ++ optionalField "nrfNfMgtUri" nrfNfMgtUri)))) :=
    hY.get_map rfl
  have hsnssai : Y.get (node (writeNsi ⟨⟨sst, sd⟩, nrfId, nsiId, nrfNfMgtUri⟩)) "snssai" =
      .ok (node (.map (("sst", .int sst) :: optionalField "sd" sd))) := hY.get_map rfl
  unfold nsiEntry
  rw [hinfo, hsnssai]
  simp only [ok_bind]
  rw [stringAt_map hY rfl, optionalStringAt_map hY hnsiId, optionalStringAt_map hY huri,
    int32At_map hY hsst rfl, optionalStringAt_map hY hsd]
  rfl

theorem get_plmnId_writeTai (tai : Tai) :
    Y.get (node (writeTai tai)) "plmnId" =
      .ok (node (.map [("mcc", .str tai.plmnId.mcc), ("mnc", .str tai.plmnId.mnc)])) :=
  hY.get_map rfl

theorem tac_writeTai (tai : Tai) : stringAt Y (node (writeTai tai)) "tac" = .ok tai.tac :=
  stringAt_map hY rfl

/-- A tracking area is loaded without its supported S-NSSAIs. -/
theorem taEntry_write (item : TaInfo) :
    taEntry Y (node (writeTa item)) = .ok { item with supoortedSnssai := [] } := by
  have htai : Y.get (node (writeTa item)) "tai" = .ok (node (writeTai item.tai)) :=
    hY.get_map rfl
  unfold taEntry
  rw [htai]
  simp only [ok_bind, get_plmnId_writeTai hY]
  rw [stringAt_map hY rfl, stringAt_map hY rfl, tac_writeTai hY]
  rfl

/-- Availability data is loaded without the MNC of its TAI. -/
theorem parseNssai_write {data : SupportedNssaiAvailabilityData}
    (hsst : ∀ snssai ∈ data.supportedSnssaiList, IsInt32 snssai.sst)
    (nssaiData : SupportedNssaiAvailabilityData) :
    parseNssai Y (node (writeNssai data)) nssaiData =
      (true, { tai := { data.tai with plmnId := { mcc := data.tai.plmnId.mcc } },
               supportedSnssaiList := data.supportedSnssaiList }) := by
  have htai : Y.get (node (writeNssai data)) "tai" = .ok (node (writeTai data.tai)) :=
    hY.get_map rfl
  have hparsed : nssaiTai Y (node (writeNssai data)) =
      .ok { data.tai with plmnId := { mcc := data.tai.plmnId.mcc } } := by
    unfold nssaiTai
    rw [htai]
    simp only [ok_bind, get_plmnId_writeTai hY, tac_writeTai hY]
    rw [stringAt_map hY rfl]
    rfl
  have hslices : Y.get (node (writeNssai data)) "supportedSnssaiList" =
      .ok (node (.seq (data.supportedSnssaiList.map fun snssai =>
        writeSnssai snssai.sst snssai.sd))) := hY.get_map rfl
  have hentry : ∀ snssai ∈ data.supportedSnssaiList,
      extSnssaiEntry Y (node (writeSnssai snssai.sst snssai.sd)) = .ok snssai :=
    fun snssai hmem => extSnssaiEntry_write hY (hsst snssai hmem)
  have hlist : supportedSnssaiList Y (node (writeNssai data)) = .ok data.supportedSnssaiList := by
    have hloop : pushEach (extSnssaiEntry Y) (data.supportedSnssaiList.map
        (node ∘ fun snssai => writeSnssai snssai.sst snssai.sd)) [] =
        (.ok (), [] ++ data.supportedSnssaiList.map id) := pushEach_map hentry []
    rw [List.map_id, List.nil_append] at hloop
    unfold supportedSnssaiList
    rw [hslices, ok_bind, hY.children_seq, List.map_map, hloop]
    rfl
  unfold parseNssai
  rw [hparsed, hlist]

/-- What an AMF is loaded as: its identifier and one record of availability data, whose
    TAI has no MNC. -/
def loadedAmf (amf : String × SupportedNssaiAvailabilityData) :
    String × List SupportedNssaiAvailabilityData :=
  (amf.1, [{ amf.2 with
    tai := { amf.2.tai with plmnId := { mcc := amf.2.tai.plmnId.mcc } } }])

theorem amfEntry_write {amf : String × SupportedNssaiAvailabilityData}
    (hsst : ∀ snssai ∈ amf.2.supportedSnssaiList, IsInt32 snssai.sst) :
    amfEntry Y (node (writeAmf amf)) = .ok (loadedAmf amf) := by
  have hconf : Y.get (node (writeAmf amf)) "supportedNssaiAvailabilityData" =
      .ok (node (writeNssai amf.2)) := hY.get_map rfl
  have hnfId : stringAt Y (node (writeAmf amf)) "nfId" = .ok amf.1 := stringAt_map hY rfl
  refine amfEntry_eq_ok_iff.mpr ⟨_, amf.1, hconf, hnfId, ?_⟩
  rw [parseNssai_write hY hsst]
  rfl

/-- What an AMF set is loaded as. -/
def loadedAmfSet (set : AmfSetValue) : AmfInfo :=
  { set.toAmfInfo with amfList := set.amfs.map loadedAmf }

theorem amfSetEntry_write {set : AmfSetValue}
    (hsst : ∀ amf ∈ set.amfs, ∀ snssai ∈ amf.2.supportedSnssaiList, IsInt32 snssai.sst) :
    amfSetEntry Y (node (writeAmfSet set)) = .ok (loadedAmfSet set) := by
  have hamfs : Y.get (node (writeAmfSet set)) "amfList" =
      .ok (node (.seq (set.amfs.map writeAmf))) := hY.get_map rfl
  have hentry : ∀ amf ∈ set.amfs, amfEntry Y (node (writeAmf amf)) = .ok (loadedAmf amf) :=
    fun amf hmem => amfEntry_write hY (hsst amf hmem)
  refine amfSetEntry_eq_ok_iff.mpr ⟨stringAt_map hY rfl, stringAt_map hY rfl, stringAt_map hY rfl,
    _, hamfs, ?_, ?_⟩
  · rw [hY.children_seq, List.map_map]
    intro amfNode hmem
    obtain ⟨amf, hamf, rfl⟩ := List.mem_map.mp hmem
    exact ⟨_, hentry amf hamf⟩
  · rw [hY.children_seq, List.map_map]
    exact (goodPrefix_map hentry).symm

end Entries

/-! ## The document -/

/-- What a slice configuration is loaded as. -/
def SliceConfig.loaded (v : SliceConfig) : NssfConfig where
  nsiInfoList := v.nsiInfoList
  taInfoList := v.taInfoList.map fun item => { item with supoortedSnssai := [] }
  amfInfoList := v.amfSets.map loadedAmfSet

theorem document_hasSections (hY : Y.Loads node) (nsi ta amf : List Tree) :
    HasSections Y (node (document nsi ta amf)) (node (.seq nsi)) (node (.seq ta))
      (node (.seq amf)) := by
  have hconf : Y.getOrInsert (node (document nsi ta amf)) "configuration" =
      .ok (node (.map [("nsiInfoList", .seq nsi), ("taInfoList", .seq ta),
        ("amfInfoList", .seq amf)])) := hY.getOrInsert_map rfl
  have hsection : ∀ name t, List.lookup name [("nsiInfoList", Tree.seq nsi),
      ("taInfoList", .seq ta), ("amfInfoList", .seq amf)] = some t →
      configSection Y (node (document nsi ta amf)) name = .ok (node t) := by
    intro name t hlookup
    rw [configSection, hconf, ok_bind]
    exact hY.getOrInsert_map hlookup
  exact ⟨hsection _ _ rfl, hY.isDefined_node _, hsection _ _ rfl, hY.isDefined_node _,
    hsection _ _ rfl, hY.isDefined_node _⟩

/-- The document of a slice configuration is accepted on empty lists. -/
theorem parseConfig_write (hY : Y.Loads node) {v : SliceConfig} (hv : v.IsInt32Sst) :
    parseConfig Y (.ok (node (writeConfig v))) {} = .ok (true, v.loaded) := by
  have hnsi : goodPrefix (nsiEntry Y) ((v.nsiInfoList.map writeNsi).map node) = v.nsiInfoList := by
    rw [List.map_map]
    exact (goodPrefix_map fun item hmem => nsiEntry_write hY (hv.nsi item hmem)).trans
      (List.map_id _)
  have hta : goodPrefix (taEntry Y) ((v.taInfoList.map writeTa).map node) =
      v.taInfoList.map fun item => { item with supoortedSnssai := [] } := by
    rw [List.map_map]
    exact goodPrefix_map fun item _ => taEntry_write hY item
  have hamf : goodPrefix (amfSetEntry Y) ((v.amfSets.map writeAmfSet).map node) =
      v.amfSets.map loadedAmfSet := by
    rw [List.map_map]
    exact goodPrefix_map fun set hmem => amfSetEntry_write hY (hv.amf set hmem)
  rw [writeConfig, parseConfig_eq (document_hasSections hY _ _ _), hY.children_seq,
    hY.children_seq, hY.children_seq, hnsi, hta, hamf]
  rfl

theorem loadedAmf_eq_iff (amf : String × SupportedNssaiAvailabilityData) :
    loadedAmf amf = (amf.1, [amf.2]) ↔ amf.2.tai.plmnId.mnc = "" := by
  obtain ⟨nfId, ⟨⟨mcc, mnc⟩, tac⟩, supported⟩ := amf
  simp [loadedAmf, eq_comm]

/-- An AMF set is loaded as it was written when no AMF of it has an MNC. -/
theorem loadedAmfSet_eq_iff (set : AmfSetValue) :
    loadedAmfSet set = set.toAmfInfo ↔ ∀ amf ∈ set.amfs, amf.2.tai.plmnId.mnc = "" := by
  have hlists : loadedAmfSet set = set.toAmfInfo ↔
      set.amfs.map loadedAmf = set.amfs.map fun amf => (amf.1, [amf.2]) := by
    constructor
    · intro h
      exact congrArg AmfInfo.amfList h
    · intro h
      rw [loadedAmfSet, h]
      rfl
  rw [hlists, List.map_inj_left]
  simp only [loadedAmf_eq_iff]

/-- What is loaded is what was written when nothing was there that is lost. -/
theorem loaded_eq_iff (v : SliceConfig) :
    v.loaded = v.toConfig ↔
      (∀ item ∈ v.taInfoList, item.supoortedSnssai = []) ∧
        ∀ set ∈ v.amfSets, ∀ amf ∈ set.amfs, amf.2.tai.plmnId.mnc = "" := by
  have hta : (v.taInfoList.map fun item => { item with supoortedSnssai := [] }) = v.taInfoList ↔
      ∀ item ∈ v.taInfoList, item.supoortedSnssai = [] := by
    conv_lhs => rw [← List.map_id v.taInfoList, List.map_map]
    rw [List.map_inj_left]
    refine forall₂_congr fun item _ => ?_
    obtain ⟨supported, tai⟩ := item
    simp [eq_comm]
  have hamf : v.amfSets.map loadedAmfSet = v.amfSets.map AmfSetValue.toAmfInfo ↔
      ∀ set ∈ v.amfSets, ∀ amf ∈ set.amfs, amf.2.tai.plmnId.mnc = "" := by
    rw [List.map_inj_left]
    exact forall₂_congr fun set _ => loadedAmfSet_eq_iff set
  rw [← hta, ← hamf]
  simp [SliceConfig.loaded, SliceConfig.toConfig]

/-- A slice configuration that is written out and loaded on empty lists is accepted, and
    the lists hold it exactly, when no tracking area has supported S-NSSAIs and no AMF a
    TAI with an MNC. -/
theorem config_round_trip_iff (hY : Y.Loads node) {v : SliceConfig} (hv : v.IsInt32Sst) :
    parseConfig Y (.ok (node (writeConfig v))) {} = .ok (true, v.toConfig) ↔
      (∀ item ∈ v.taInfoList, item.supoortedSnssai = []) ∧
        ∀ set ∈ v.amfSets, ∀ amf ∈ set.amfs, amf.2.tai.plmnId.mnc = "" := by
  rw [parseConfig_write hY hv, ← loaded_eq_iff]
  simp

/-- An instance for SST 222. -/
def sampleNsi : NsiInfo where
  snssai := ⟨222, some "123"⟩
  nsiInfo := { nrfId := "nrf", nsiId := some "11" }

/-- A tracking area with these supported S-NSSAIs. -/
def sampleTa (supported : List Snssai) : TaInfo where
  supoortedSnssai := supported
  tai := ⟨⟨"208", "95"⟩, "33456"⟩

/-- An AMF set with one AMF, whose TAI has this MNC. -/
def sampleAmfSet (mnc : String) : AmfSetValue where
  targetAmfSet := "set-1"
  nrfAmfSet := "disc"
  nrfAmfSetMgt := "nfm"
  amfs := [("amf-1", ⟨⟨⟨"208", mnc⟩, "33456"⟩, [⟨222, none⟩]⟩)]

/-- A configuration with one of each. -/
def sampleSliceConfig (supported : List Snssai) (mnc : String) : SliceConfig where
  nsiInfoList := [sampleNsi]
  taInfoList := [sampleTa supported]
  amfSets := [sampleAmfSet mnc]

theorem sampleSliceConfig_isInt32Sst (supported : List Snssai) (mnc : String) :
    (sampleSliceConfig supported mnc).IsInt32Sst := by
  constructor
  · simp [sampleSliceConfig, sampleNsi, IsInt32]
  · simp [sampleSliceConfig, sampleAmfSet, IsInt32]

theorem config_round_trip_iff_sample :
    parseConfig treeYaml (.ok (some (writeConfig (sampleSliceConfig [] "")))) {} =
      .ok (true, (sampleSliceConfig [] "").toConfig) :=
  (config_round_trip_iff treeYaml_loads (sampleSliceConfig_isInt32Sst [] "")).mpr
    ⟨by decide, by decide⟩

/-- With supported S-NSSAIs and an MNC, both are gone after loading. -/
theorem loaded_config_differs :
    let v := sampleSliceConfig [⟨222, some "123"⟩] "95"
    v.IsInt32Sst ∧
      parseConfig treeYaml (.ok (some (writeConfig v))) {} ≠ .ok (true, v.toConfig) := by
  have hv := sampleSliceConfig_isInt32Sst [⟨222, some "123"⟩] "95"
  refine ⟨hv, fun h => ?_⟩
  rw [parseConfig_write treeYaml_loads hv] at h
  have hloaded := (Prod.mk.inj (Except.ok.inj h)).2
  exact absurd hloaded (by decide)

end OaiNssf.Config
