import AttributeProfiles.Event
import AttributeProfiles.Template.Rendering

/-!
# Logged rendering

A template that renders logs its output; one that fails logs nothing here, because only the caller
knows for which attribute it failed.
-/

namespace AttributeProfiles.Template

def renderLogged (t : Template) (bindings : Record) (separator : Char) :
    Eventful (Except Error String) :=
  match t.render bindings separator with
  | .ok output => do
    Logged.log (.templateRendered t.source output)
    pure (.ok output)
  | .error cause => pure (.error cause)

def renderValuesLogged (t : Template) (bindings : Record) (separator : Char) :
    Eventful (Except Error (List String)) :=
  (·.map (outputValues separator)) <$> t.renderLogged bindings separator

@[simp] theorem renderLogged_value (t : Template) (bindings : Record) (separator : Char) :
    (t.renderLogged bindings separator).value = t.render bindings separator := by
  unfold renderLogged
  split <;> simp_all

@[simp] theorem renderValuesLogged_value (t : Template) (bindings : Record) (separator : Char) :
    (t.renderValuesLogged bindings separator).value = t.renderValues bindings separator := by
  simp [renderValuesLogged, renderValues]

end AttributeProfiles.Template
