import AttributeProfiles.Config.Document
import AttributeProfiles.Toml.Reader

/-!
# Configurations in TOML

A document in TOML is always a table. Where its options are written as a list, items after the third
are ignored.
-/

namespace AttributeProfiles.Config

def ofToml? (text : String) : Option Config :=
  (Toml.read? text).bind (Document.config? .ignored)

end AttributeProfiles.Config
