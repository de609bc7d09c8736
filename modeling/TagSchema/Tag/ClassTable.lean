import TagSchema.Bytes

/-!
# Tag classes as data

Every kind of tag has a name, a four-character code and the version that files of it carry. A
superclass is a class whose name also stands for the classes of its members.
-/

namespace TagSchema

/-- A kind of tag. -/
structure ClassEntry where
  name : String
  code : UInt32
  version : UInt16

namespace ClassTable

/-- The known classes. -/
def entries : List ClassEntry := [
  ⟨"actor", 0x61637472, 2⟩,
  ⟨"actor_variant", 0x61637476, 1⟩,
  ⟨"antenna", 0x616E7421, 1⟩,
  ⟨"model_animations", 0x616E7472, 4⟩,
  ⟨"biped", 0x62697064, 3⟩,
  ⟨"bitmap", 0x6269746D, 7⟩,
  ⟨"spheroid", 0x626F6F6D, 1⟩,
  ⟨"continuous_damage_effect", 0x63646D67, 1⟩,
  ⟨"model_collision_geometry", 0x636F6C6C, 10⟩,
  ⟨"color_table", 0x636F6C6F, 1⟩,
  ⟨"contrail", 0x636F6E74, 3⟩,
  ⟨"device_control", 0x6374726C, 1⟩,
  ⟨"decal", 0x64656361, 1⟩,
  ⟨"ui_widget_definition", 0x44654C61, 1⟩,
  ⟨"input_device_defaults", 0x64657663, 1⟩,
  ⟨"device", 0x64657669, 1⟩,
  ⟨"detail_object_collection", 0x646F6263, 1⟩,
  ⟨"effect", 0x65666665, 4⟩,
  ⟨"equipment", 0x65716970, 2⟩,
  ⟨"flag", 0x666C6167, 1⟩,
  ⟨"fog", 0x666F6720, 1⟩,
  ⟨"font", 0x666F6E74, 1⟩,
  ⟨"material_effects", 0x666F6F74, 1⟩,
  ⟨"garbage", 0x67617262, 1⟩,
  ⟨"glow", 0x676C7721, 1⟩,
  ⟨"grenade_hud_interface", 0x67726869, 1⟩,
  ⟨"hud_message_text", 0x686D7420, 1⟩,
  ⟨"hud_number", 0x68756423, 1⟩,
  ⟨"hud_globals", 0x68756467, 1⟩,
  ⟨"item", 0x6974656D, 2⟩,
  ⟨"item_collection", 0x69746D63, 0⟩,
  ⟨"damage_effect", 0x6A707421, 6⟩,
  ⟨"lens_flare", 0x6C656E73, 2⟩,
  ⟨"lightning", 0x656C6563, 1⟩,
  ⟨"device_light_fixture", 0x6C696669, 1⟩,
  ⟨"light", 0x6C696768, 3⟩,
  ⟨"sound_looping", 0x6C736E64, 3⟩,
  ⟨"device_machine", 0x6D616368, 1⟩,
  ⟨"globals", 0x6D617467, 3⟩,
  ⟨"meter", 0x6D657472, 1⟩,
  ⟨"light_volume", 0x6D677332, 1⟩,
  ⟨"gbxmodel", 0x6D6F6432, 5⟩,
  ⟨"model", 0x6D6F6465, 4⟩,
  ⟨"multiplayer_scenario_description", 0x6D706C79, 2⟩,
  ⟨"preferences_network_game", 0x6E677072, 1⟩,
  ⟨"object", 0x6F626A65, 1⟩,
  ⟨"particle", 0x70617274, 2⟩,
  ⟨"particle_system", 0x7063746C, 4⟩,
  ⟨"physics", 0x70687973, 4⟩,
  ⟨"placeholder", 0x706C6163, 2⟩,
  ⟨"point_physics", 0x70706879, 1⟩,
  ⟨"projectile", 0x70726F6A, 5⟩,
  ⟨"weather_particle_system", 0x7261696E, 1⟩,
  ⟨"scenario_structure_bsp", 0x73627370, 5⟩,
  ⟨"scenery", 0x7363656E, 1⟩,
  ⟨"shader_transparent_chicago_extended", 0x73636578, 1⟩,
  ⟨"shader_transparent_chicago", 0x73636869, 1⟩,
  ⟨"scenario", 0x73636E72, 2⟩,
  ⟨"shader_environment", 0x73656E76, 2⟩,
  ⟨"shader_transparent_glass", 0x73676C61, 1⟩,
  ⟨"shader", 0x73686472, 1⟩,
  ⟨"sky", 0x736B7920, 1⟩,
  ⟨"shader_transparent_meter", 0x736D6574, 1⟩,
  ⟨"sound", 0x736E6421, 4⟩,
  ⟨"sound_environment", 0x736E6465, 1⟩,
  ⟨"shader_model", 0x736F736F, 2⟩,
  ⟨"shader_transparent_generic", 0x736F7472, 1⟩,
  ⟨"ui_widget_collection", 0x536F756C, 1⟩,
  ⟨"shader_transparent_plasma", 0x73706C61, 1⟩,
  ⟨"sound_scenery", 0x73736365, 1⟩,
  ⟨"string_list", 0x73747223, 1⟩,
  ⟨"shader_transparent_water", 0x73776174, 2⟩,
  ⟨"tag_collection", 0x74616763, 1⟩,
  ⟨"camera_track", 0x7472616B, 1⟩,
  ⟨"dialogue", 0x75646C67, 1⟩,
  ⟨"unit_hud_interface", 0x756E6869, 1⟩,
  ⟨"unit", 0x756E6974, 2⟩,
  ⟨"unicode_string_list", 0x75737472, 1⟩,
  ⟨"virtual_keyboard", 0x76636B79, 2⟩,
  ⟨"vehicle", 0x76656869, 1⟩,
  ⟨"weapon", 0x77656170, 2⟩,
  ⟨"wind", 0x77696E64, 1⟩,
  ⟨"weapon_hud_interface", 0x77706869, 2⟩]

/-- The superclasses and their members. -/
def superclasses : List (String × List String) := [
  ("object", ["biped", "vehicle", "weapon", "equipment", "garbage", "projectile", "scenery",
    "device_machine", "device_control", "device_light_fixture", "placeholder", "sound_scenery"]),
  ("unit", ["biped", "vehicle"]),
  ("item", ["weapon", "equipment", "garbage"]),
  ("device", ["device_machine", "device_control", "device_light_fixture"]),
  ("shader", ["shader_environment", "shader_model", "shader_transparent_chicago",
    "shader_transparent_chicago_extended", "shader_transparent_generic",
    "shader_transparent_glass", "shader_transparent_meter", "shader_transparent_plasma",
    "shader_transparent_water"])]

/-- The class of a name. -/
def byName? (name : String) : Option ClassEntry := entries.find? (·.name = name)

/-- The class of a code. -/
def byCode? (code : UInt32) : Option ClassEntry := entries.find? (·.code = code)

/-- The members of a superclass. -/
def members? (name : String) : Option (List String) :=
  (superclasses.find? (·.1 = name)).map (·.2)

/-- The token for every class. -/
def anyClass : String := "*"

/-- `name` at the end of the list, unless it is there already. -/
def insertNew (names : List String) (name : String) : List String :=
  if name ∈ names then names else names ++ [name]

/-- A list of class names with every superclass followed by its members, each name where it is first
seen. A superclass stays in the list, since a tag can be of that class itself. The empty list stands
for every class. -/
def expand (names : List String) : List String :=
  if anyClass ∈ names then []
  else
    names.foldl
      (fun seen name => ((members? name).getD []).foldl insertNew (insertNew seen name)) []

end ClassTable

end TagSchema
