import OaiNssf.Model.Config

/-!
# The format of the slice configuration

The document of `etc/nssf_slice_config.yaml` as a tree, written from a value of the
data model. Of the file, the `info` section and `plmnInfoList`, which nothing reads, are
left out; the order of the keys of a mapping follows the file.

* `writeConfig`: the document of a slice configuration.
* `Yaml.Loads`: what is relied on when a document is written to a file and loaded.
* `treeYaml`: the operations of yaml-cpp on such trees, for the instances.
-/

namespace OaiNssf

/-- A document: scalars made from a string or from an integer, sequences, mappings. -/
inductive Tree where
  | str (s : String)
  | int (i : ℤ)
  | seq (items : List Tree)
  | map (fields : List (String × Tree))

/-- The values of `int32_t`. -/
def IsInt32 (i : ℤ) : Prop := -2 ^ 31 ≤ i ∧ i < 2 ^ 31

instance (i : ℤ) : Decidable (IsInt32 i) :=
  inferInstanceAs (Decidable (-2 ^ 31 ≤ i ∧ i < 2 ^ 31))

/-- The node of each tree when it is written out and loaded: the subscripts find the
    fields of a mapping, a missing one is not defined, an iteration visits the items of
    a sequence, and `as` gives back the scalars written. -/
structure Yaml.Loads {Node : Type} (Y : Yaml Node) (node : Tree → Node) : Prop where
  get_map : ∀ {fields key t}, fields.lookup key = some t →
    Y.get (node (.map fields)) key = .ok (node t)
  get_missing : ∀ {fields key}, fields.lookup key = none →
    ∃ undefined, Y.get (node (.map fields)) key = .ok undefined ∧ Y.isDefined undefined = false
  getOrInsert_map : ∀ {fields key t}, fields.lookup key = some t →
    Y.getOrInsert (node (.map fields)) key = .ok (node t)
  isDefined_node : ∀ t, Y.isDefined (node t) = true
  children_seq : ∀ items, Y.children (node (.seq items)) = items.map node
  asString_str : ∀ s, Y.asString (node (.str s)) = .ok s
  asInt32_int : ∀ i, IsInt32 i → Y.asInt32 (node (.int i)) = .ok i

namespace Config

/-! ## Values -/

/-- An AMF set of a slice configuration; each AMF has one record of availability
    data. -/
structure AmfSetValue where
  targetAmfSet : String
  nrfAmfSet : String
  nrfAmfSetMgt : String
  amfs : List (String × SupportedNssaiAvailabilityData)

/-- A slice configuration. -/
structure SliceConfig where
  nsiInfoList : List NsiInfo
  taInfoList : List TaInfo
  amfSets : List AmfSetValue

/-- The three lists that hold the AMF set. -/
def AmfSetValue.toAmfInfo (set : AmfSetValue) : AmfInfo where
  targetAmfSet := set.targetAmfSet
  nrfAmfSet := set.nrfAmfSet
  nrfAmfSetMgt := set.nrfAmfSetMgt
  amfList := set.amfs.map fun amf => (amf.1, [amf.2])

/-- The three lists that hold the configuration. -/
def SliceConfig.toConfig (v : SliceConfig) : NssfConfig where
  nsiInfoList := v.nsiInfoList
  taInfoList := v.taInfoList
  amfInfoList := v.amfSets.map AmfSetValue.toAmfInfo

/-- The SSTs of the instances and of the AMFs are of type `int32_t`. -/
structure SliceConfig.IsInt32Sst (v : SliceConfig) : Prop where
  nsi : ∀ item ∈ v.nsiInfoList, IsInt32 item.snssai.sst
  amf : ∀ set ∈ v.amfSets, ∀ amf ∈ set.amfs, ∀ snssai ∈ amf.2.supportedSnssaiList,
    IsInt32 snssai.sst

/-! ## The document of a value -/

/-- The field of an optional string. -/
def optionalField (key : String) : Option String → List (String × Tree)
  | none => []
  | some s => [(key, .str s)]

def writeSnssai (sst : ℤ) (sd : Option String) : Tree :=
  .map (("sst", .int sst) :: optionalField "sd" sd)

def writeTai (tai : Tai) : Tree :=
  .map [
    ("plmnId", .map [("mcc", .str tai.plmnId.mcc), ("mnc", .str tai.plmnId.mnc)]),
    ("tac", .str tai.tac)]

def writeNsi (item : NsiInfo) : Tree :=
  .map [
    ("snssai", writeSnssai item.snssai.sst item.snssai.sd),
    ("nsiInformationList", .map
      (("nrfId", .str item.nsiInfo.nrfId) ::
        (optionalField "nsiId" item.nsiInfo.nsiId ++
          optionalField "nrfNfMgtUri" item.nsiInfo.nrfNfMgtUri)))]

def writeTa (item : TaInfo) : Tree :=
  .map [
    ("tai", writeTai item.tai),
    ("supportedSnssaiList",
      .seq (item.supoortedSnssai.map fun snssai => writeSnssai snssai.sst snssai.sd))]

def writeNssai (data : SupportedNssaiAvailabilityData) : Tree :=
  .map [
    ("tai", writeTai data.tai),
    ("supportedSnssaiList",
      .seq (data.supportedSnssaiList.map fun snssai => writeSnssai snssai.sst snssai.sd))]

def writeAmf (amf : String × SupportedNssaiAvailabilityData) : Tree :=
  .map [("nfId", .str amf.1), ("supportedNssaiAvailabilityData", writeNssai amf.2)]

def writeAmfSet (set : AmfSetValue) : Tree :=
  .map [
    ("targetAmfSet", .str set.targetAmfSet),
    ("nrfAmfSet", .str set.nrfAmfSet),
    ("nrfAmfSetNfMgtUri", .str set.nrfAmfSetMgt),
    ("amfList", .seq (set.amfs.map writeAmf))]

/-- A document with these three sections. -/
def document (nsi ta amf : List Tree) : Tree :=
  .map [
    ("configuration", .map [
      ("nsiInfoList", .seq nsi),
      ("taInfoList", .seq ta),
      ("amfInfoList", .seq amf)])]

def writeConfig (v : SliceConfig) : Tree :=
  document (v.nsiInfoList.map writeNsi) (v.taInfoList.map writeTa) (v.amfSets.map writeAmfSet)

/-! ## Trees as nodes -/

/-- The conversion of a number to `int32_t`. -/
def int32Of : Option ℤ → Except StdException ℤ
  | some i => if IsInt32 i then .ok i else .error ⟨"bad conversion"⟩
  | none => .error ⟨"bad conversion"⟩

/-- The operations of yaml-cpp on trees; `none` is a node that is not defined. A
    subscript of such a node throws if the node is constant, and so does one of a
    scalar. -/
def treeYaml : Yaml (Option Tree) where
  get
    | some (.map fields), key => .ok (fields.lookup key)
    | some (.seq _), _ => .ok none
    | some _, _ => .error ⟨"operator[] call on a scalar"⟩
    | none, _ => .error ⟨"invalid node"⟩
  getOrInsert
    | some (.map fields), key => .ok (fields.lookup key)
    | some (.seq _), _ => .ok none
    | some _, _ => .error ⟨"operator[] call on a scalar"⟩
    | none, _ => .ok none
  isDefined node := node.isSome
  children
    | some (.seq items) => items.map some
    | some (.map fields) => fields.map fun _ => none
    | _ => []
  asString
    | some (.str s) => .ok s
    | some (.int i) => .ok (toString i)
    | some _ => .error ⟨"bad conversion"⟩
    | none => .error ⟨"invalid node"⟩
  asInt32
    | some (.int i) => int32Of (some i)
    | some (.str s) => int32Of s.toInt?
    | some _ => int32Of none
    | none => .error ⟨"invalid node"⟩

theorem treeYaml_loads : treeYaml.Loads some where
  get_map h := congrArg Except.ok h
  get_missing h := ⟨none, congrArg Except.ok h, rfl⟩
  getOrInsert_map h := congrArg Except.ok h
  isDefined_node _ := rfl
  children_seq _ := rfl
  asString_str _ := rfl
  asInt32_int _ h := if_pos h

end Config

end OaiNssf
