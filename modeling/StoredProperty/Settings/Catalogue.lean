import StoredProperty.Settings.Property

/-!
# A catalogue of settings

Properties of every type, on both stores, with keys that differ from their names and keys that two properties share.
The twin is a second owner of the same store, so that its properties are the same as the first owner's.
-/

namespace StoredProperty.Settings

def catalogue : List (String × Property) :=
  [("enable_notification", ⟨.bool false, "enable_notification", .own⟩),
   ("sync_enabled", ⟨.bool true, "sync_enabled", .own⟩),
   ("page_size", ⟨.int 10, "page_size", .own⟩),
   ("floor", ⟨.int Int64.minValue, "floor", .own⟩),
   ("ceiling", ⟨.int Int64.maxValue, "limits.ceiling", .own⟩),
   ("volume", ⟨.float ⟨0x3fe8000000000000⟩, "volume", .own⟩),
   ("relative_value", ⟨.float .nan, "relative_value", .own⟩),
   ("offset", ⟨.float (-.zero), "", .own⟩),
   ("user_id", ⟨.string "guest", "user.id", .own⟩),
   ("font", ⟨.string "naïve \"q\"\n", "ui.font", .own⟩),
   ("type", ⟨.string "light", "type", .own⟩),
   ("page_label", ⟨.string "shared", "page_size", .own⟩),
   ("twin.page_size", ⟨.int 10, "page_size", .own⟩),
   ("twin.user_id", ⟨.string "guest", "user.id", .own⟩),
   ("retries", ⟨.int 3, "retries", .standard⟩),
   ("std_offset", ⟨.float ⟨0xc004000000000000⟩, "standard.offset", .standard⟩),
   ("title", ⟨.string "", "standard.title", .standard⟩),
   ("first_run", ⟨.bool true, "first_run", .standard⟩)]

def property? (name : String) : Option Property := catalogue.lookup name

/-- An owner with a store of its own, beside the standard store. -/
def fresh : Stores := ⟨.empty, .standard⟩

end StoredProperty.Settings
