import AttributeProfiles.Config.Loading
import AttributeProfiles.Mapper.Basic

/-!
# Loading mappers

The mapper of a configuration file is the mapper of the configuration in it.
-/

namespace AttributeProfiles.Mapper

def load (files : Files) (path : String) : Eventful (Except ConfigError Mapper) := do
  match ← Config.load files path with
  | .error cause => pure (.error cause)
  | .ok c => build c

end AttributeProfiles.Mapper
