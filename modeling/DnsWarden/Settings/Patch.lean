import DnsWarden.Settings.Codec

/-!
# Patching settings

A patch is an object laid over settings.  Each of its fields replaces the field of that name, but
the fields of the choice of blocklists and of the resolver's settings are replaced one by one, and
the period of the refreshes may be given in milliseconds.
-/

namespace DnsWarden

namespace Json

/-- An object with the fields of another in place of its own. -/
def overlay : Json → Json → Json
  | .obj fields, .obj changes =>
    .obj (changes.foldl (fun acc change => assign change.1 change.2 acc) fields)
  | base, _ => base

end Json

namespace Settings

/-- Lays one field of a patch over the fields of settings. -/
def patchField? (fields : List (String × Json)) (name : String) (value : Json) :
    Option (List (String × Json)) :=
  match name with
  | "update_period_ms" =>
    (value.below? UInt64.size).map fun ms =>
      Json.assign "update_period" (Duration.ofMillis ms).toJson fields
  | "resolver" | "blocklist_build" =>
    (Json.lookup name fields).map fun old => Json.assign name (old.overlay value) fields
  | _ => some (Json.assign name value fields)

/-- Lays a patch over settings. -/
def patch? (s : Settings) (patch : Json) : Option Settings :=
  match s.toJson, patch with
  | .obj fields, .obj changes =>
    (changes.foldlM (fun acc change => patchField? acc change.1 change.2) fields).bind
      fun fields => ofJson? (.obj fields)
  | _, _ => none

end Settings

end DnsWarden
