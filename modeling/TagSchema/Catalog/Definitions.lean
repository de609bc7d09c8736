import TagSchema.Schema.Definition

/-!
# The definitions of the catalog

The catalog is the schema that the tags of this library are defined by. Its groups stand in the
order of their names.
-/

namespace TagSchema

namespace Catalog

open Definition OptionRecord

/-! ### Numbers -/

/-- One. -/
def one : Binary64 := ⟨0x3FF0000000000000⟩

/-- One and a half. -/
def threeHalves : Binary64 := ⟨0x3FF8000000000000⟩

/-- Two. -/
def two : Binary64 := ⟨0x4000000000000000⟩

/-- Four. -/
def four : Binary64 := ⟨0x4010000000000000⟩

/-- Eight. -/
def eight : Binary64 := ⟨0x4020000000000000⟩

/-! ### Groups -/

/-- Bitmaps. -/
def bitmap : DefinitionGroup where
  name := "bitmap"
  definitions := [
    struct {
      name := "Bitmap", size := 80
      fields := [
        { name := "color plate", typeName := "TagDataOffset" },
        { name := "pixel data", typeName := "TagDataOffset", externalFile := "bitmaps.map" },
        { name := "compressed color plate", typeName := "TagDataOffset", fileOffset := true },
        { name := "tint", typeName := "ColorRGB", default := some (.single one) },
        { name := "swap id", typeName := "uint32", order := some .little },
        { name := "unused value", typeName := "uint32", unused := true }] }]

/-- The enums and bitfields that structs share. -/
def enums : DefinitionGroup where
  name := "enums"
  definitions := [
    enum {
      name := "ObjectType"
      options := [bare "biped", bare "vehicle", bare "weapon", bare "equipment", bare "garbage",
        bare "projectile", bare "scenery"] },
    enum {
      name := "DamageCategory"
      options := [bare "none", bare "falling", detailed { name := "unused", excluded := true },
        bare "explosion"] },
    enum {
      name := "Team"
      options := [bare "default", bare "player", bare "human", bare "covenant"] },
    bitfield {
      name := "ObjectFlags", width := 16
      fields := [bare "does not cast shadow", bare "transparent self occlusion",
        bare "brighter than it should be", bare "not a pathfinding obstacle",
        detailed { name := "cache dirty", cacheOnly := true
                   description := "Set by the bundle builder." },
        detailed { name := "legacy", excluded := true }] },
    bitfield {
      name := "TriggerFlags", width := 32
      fields := [bare "tracks fired projectile", bare "random firing effects",
        detailed { name := "locked", readOnly := true }] }]

/-- Models. -/
def model : DefinitionGroup where
  name := "model"
  definitions := [
    struct {
      name := "Model", size := 24
      fields := [
        { name := "nodes", typeName := "TagReflexive", struct := "ModelNode" },
        { name := "regions", typeName := "TagReflexive", struct := "ModelRegion" }] },
    struct {
      name := "Gbxmodel", inherits := "Model", size := 28
      fields := [
        { name := "detail cutoff", typeName := "float", default := some (.single one) }] },
    struct {
      name := "ModelNode", size := 64, title := "name"
      fields := [
        { name := "name", typeName := "TagString" },
        { name := "parent node index", typeName := "Index", struct := "Model"
          reflexive := "nodes" },
        { name := "first child node index", typeName := "Index", struct := "Model"
          reflexive := "nodes" },
        { name := "default translation", typeName := "Point3D" },
        { name := "default rotation", typeName := "Quaternion", normalize := true }] },
    struct {
      name := "ModelRegion", size := 44, title := "name"
      fields := [
        { name := "name", typeName := "TagString" },
        { name := "permutations", typeName := "TagReflexive"
          struct := "ModelRegionPermutation" }] },
    struct {
      name := "ModelRegionPermutation", size := 36
      fields := [
        { name := "name", typeName := "TagString" },
        { name := "node", typeName := "Index", struct := "Model", reflexive := "nodes" },
        { typeName := "pad", size := some 2 }] }]

/-- Objects, items and weapons. -/
def object : DefinitionGroup where
  name := "object"
  definitions := [
    struct {
      name := "Object", size := 48
      fields := [
        { name := "object type", typeName := "ObjectType", cacheOnly := true },
        { name := "flags", typeName := "ObjectFlags" },
        { name := "bounding radius", typeName := "float", minimum := some .zero
          unit := "world units" },
        { name := "bounding offset", typeName := "Point3D" },
        { name := "acceleration scale", typeName := "float", default := some (.single one) },
        { name := "model", typeName := "TagDependency", classes := ["model"] },
        { name := "runtime id", typeName := "TagID" },
        { typeName := "pad", size := some 4 }] },
    struct {
      name := "Item", inherits := "Object", size := 68
      fields := [
        { name := "message index", typeName := "int16" },
        { name := "sort order", typeName := "int16" },
        { name := "pickup sound", typeName := "TagDependency", classes := ["sound"] }] },
    struct {
      name := "Weapon", inherits := "Item", size := 144, title := "label"
      fields := [
        { name := "label", typeName := "TagString" },
        { name := "zoom levels", typeName := "int16", minimum := some .zero
          maximum := some eight },
        { typeName := "pad", size := some 2 },
        { name := "zoom magnification", typeName := "float", bounds := true
          default := some (.multiple [one, two]), defaultSign := true },
        { name := "heat recovery", typeName := "Fraction", minimum := some .zero
          maximum := some one, volatile := true },
        { name := "magazines", typeName := "TagReflexive", struct := "WeaponMagazine" },
        { name := "triggers", typeName := "TagReflexive", struct := "WeaponTrigger"
          maximum := some two, stockMaximum := some 1 },
        { name := "runtime flags", typeName := "uint32", cacheOnly := true }] },
    struct {
      name := "WeaponMagazine", size := 12, maximum := some 2
      fields := [
        { name := "rounds recharged", typeName := "int16" },
        { name := "rounds total initial", typeName := "int16" },
        { name := "rounds total maximum", typeName := "int16", minimum := some .zero },
        { typeName := "pad", size := some 2 },
        { name := "reload time", typeName := "float", unit := "seconds"
          default := some (.single threeHalves) }] },
    struct {
      name := "WeaponTrigger", size := 36
      fields := [
        { name := "flags", typeName := "TriggerFlags" },
        { name := "rounds per second", typeName := "float", bounds := true },
        { name := "magazine", typeName := "Index", struct := "Weapon", reflexive := "magazines" },
        { name := "rounds per shot", typeName := "int16" },
        { name := "projectile", typeName := "TagDependency", classes := ["object"] },
        { name := "damage category", typeName := "DamageCategory" },
        { typeName := "pad", size := some 2 }] }]

/-- Resources that are loaded ahead of their use. -/
def predictedResource : DefinitionGroup where
  name := "predicted_resource"
  definitions := [
    struct {
      name := "PredictedResource", size := 8
      fields := [
        { name := "type", typeName := "int16" },
        { name := "resource index", typeName := "int16" },
        { name := "tag", typeName := "TagID" }] }]

/-- Units and vehicles. -/
def unit : DefinitionGroup where
  name := "unit"
  definitions := [
    struct {
      name := "Unit", inherits := "Object", size := 88
      fields := [
        { name := "default team", typeName := "Team", shiftedByOne := true },
        { typeName := "pad", size := some 2 },
        { name := "weapons", typeName := "TagReflexive", struct := "UnitWeapon"
          maximum := some four },
        { name := "seats", typeName := "TagReflexive", struct := "UnitSeat" },
        { name := "predicted resources", typeName := "TagReflexive"
          struct := "PredictedResource", cacheOnly := true }] },
    struct {
      name := "UnitWeapon", size := 16, title := "weapon"
      fields := [
        { name := "weapon", typeName := "TagDependency", classes := ["weapon"]
          nonNull := true }] },
    struct {
      name := "UnitSeat", size := 40, title := "label"
      fields := [
        { name := "label", typeName := "TagString" },
        { name := "yaw range", typeName := "Angle", bounds := true, unit := "degrees" }] },
    struct {
      name := "Vehicle", inherits := "Unit", size := 120
      fields := [
        { name := "maximum forward speed", typeName := "float", minimum := some .zero },
        { name := "wheel axis", typeName := "Vector3D", normalize := true
          default := some (.multiple [.zero, .zero, one]) },
        { name := "suspension sound", typeName := "TagDependency", classes := ["sound"] }] }]

/-- The groups of the catalog. -/
def groups : List DefinitionGroup := [bitmap, enums, model, object, predictedResource, unit]

end Catalog

end TagSchema
