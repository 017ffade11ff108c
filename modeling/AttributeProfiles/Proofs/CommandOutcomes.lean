import AttributeProfiles.Proofs.CommandChain

/-!
# How commands end

The validation succeeds exactly if a mapper can be loaded from the configuration, although it loads
the configuration in steps of its own and says something between them. Every other command needs the
mapper before it writes anything, so without one it fails silently. With a mapper only the input can
make a command fail, and only a command that reads one; it has not written anything then either.
-/

namespace AttributeProfiles.CommandLine

/-- A run fails and has written nothing to the standard output. -/
structure Outcome.FailsSilently (o : Outcome) : Prop where
  exitCode : o.exitCode = 1
  output : o.output = ""

/-- A run has one reason to fail, and if it does, it has written nothing to the standard output. -/
structure Outcome.FailsOnlyBy (o : Outcome) (fault : Prop) : Prop where
  failsSilently : fault → o.FailsSilently
  exitCode : ¬ fault → o.exitCode = 0

/-- What is wrong with an input that holds no record of a shape: it cannot be read, or its text is
no JSON, or its value has another shape. -/
inductive InputFault (files : Files) (standardInput : Except ReadFault ByteArray) (input : String)
    (shape : Json.Value → Prop) : Prop
  | unreadable {failure : Failure} (h : inputText files standardInput input = .error failure)
  | notJson {text : String} (htext : inputText files standardInput input = .ok text)
      (h : Json.Value.read? text = none)
  | misshapen {text : String} {value : Json.Value}
      (htext : inputText files standardInput input = .ok text)
      (hvalue : Json.Value.read? text = some value) (h : ¬ shape value)

def Loads (files : Files) (path : String) : Prop :=
  ∃ m, (Mapper.load files path).value = .ok m

variable {files : Files} {standardInput : Except ReadFault ByteArray} {path input : String}
variable {arguments : List String} {m : Mapper} {profile : String}

theorem validate_failure_eq_none_iff :
    (validate files path).value.failure = none ↔ Loads files path := by
  unfold validate Loads Mapper.load
  simp only [Logged.bind_value]
  cases (Config.load files path).value with
  | error cause => simp [Result.failed]
  | ok c =>
    simp only [Logged.bind_value]
    cases (Mapper.build c).value with
    | error cause => simp [Result.failed]
    | ok m => simp

theorem withMapper_value_of_not_loads (h : ¬ Loads files path) (use : Mapper → Eventful Result) :
    ∃ failure, (withMapper files path use).value = .failed "" failure := by
  unfold withMapper
  rw [Logged.bind_value]
  cases hload : (Mapper.load files path).value with
  | error cause => exact ⟨_, rfl⟩
  | ok m => exact absurd ⟨m, hload⟩ h

section Input

variable {shape : Json.Value → Prop} {use : Json.Value → Eventful (Except Failure Json.Value)}

theorem not_inputFault_iff : ¬ InputFault files standardInput input shape ↔
    ∃ value, inputValue? files standardInput input = some value ∧ shape value := by
  unfold inputValue?
  constructor
  · intro h
    cases htext : inputText files standardInput input with
    | error failure => exact absurd (.unreadable htext) h
    | ok text =>
      cases hvalue : Json.Value.read? text with
      | none => exact absurd (.notJson htext hvalue) h
      | some value =>
        refine ⟨value, hvalue, ?_⟩
        by_contra hshape
        exact h (.misshapen htext hvalue hshape)
  · rintro ⟨value, hvalue, hshape⟩ hfault
    cases hfault with
    | unreadable h => simp [h, Except.toOption] at hvalue
    | notJson htext h => simp [htext, h, Except.toOption] at hvalue
    | misshapen htext hother h =>
      simp only [htext, Except.toOption, Option.bind_some, hother, Option.some.injEq] at hvalue
      exact h (hvalue ▸ hshape)

theorem InputFault.withInput_value (h : InputFault files standardInput input shape)
    (huse : ∀ value result, (use value).value = .ok result → shape value) :
    ∃ failure, (withInput files standardInput input use).value = .failed "" failure := by
  unfold withInput
  cases h with
  | unreadable h =>
    rw [h]
    exact ⟨_, rfl⟩
  | notJson htext h =>
    rw [htext]
    simp only [Logged.bind_value, h]
    exact ⟨_, rfl⟩
  | @misshapen text value htext hvalue h =>
    rw [htext]
    simp only [Logged.bind_value, hvalue]
    cases hresult : (use value).value with
    | error failure => exact ⟨failure, rfl⟩
    | ok result => exact absurd (huse value result hresult) h

end Input

theorem exists_internalOf_iff {value : Json.Value} :
    (∃ result, (internalOf m profile value).value = .ok result) ↔ value.IsObject := by
  rw [← ExternalRecord.isSome_ofValue?_iff, internalOf]
  cases ExternalRecord.ofValue? value <;> simp

theorem exists_externalOf_iff {value : Json.Value} :
    (∃ result, (externalOf m profile value).value = .ok result) ↔ value.IsObjectOfTexts := by
  rw [← Record.isSome_ofValue?_iff, externalOf]
  cases Record.ofValue? value <;> simp

namespace Asks

variable {command : Command}

theorem exitCode_eq (asks : Asks arguments path command) :
    (run arguments files standardInput).exitCode =
      if (execute files standardInput path command).value.failure = none then 0 else 1 := by
  obtain ⟨logLevel, hrequest⟩ := asks
  unfold run
  rw [hrequest]
  unfold Invocation.run
  dsimp only
  cases (execute files standardInput path command).value.failure <;> rfl

theorem exitCode_eq_zero_iff (asks : Asks arguments path command) :
    (run arguments files standardInput).exitCode = 0 ↔
      (execute files standardInput path command).value.failure = none := by
  rw [asks.exitCode_eq]
  simp

theorem failsSilently (asks : Asks arguments path command)
    (h : ∃ failure, (execute files standardInput path command).value = .failed "" failure) :
    (run arguments files standardInput).FailsSilently := by
  obtain ⟨logLevel, hrequest⟩ := asks
  obtain ⟨failure, hfailure⟩ := h
  unfold run
  rw [hrequest]
  unfold Invocation.run
  dsimp only
  rw [hfailure]
  exact ⟨rfl, rfl⟩

theorem exitCode_validate_iff (asks : Asks arguments path .validate) :
    ((run arguments files standardInput).exitCode = 0 ↔ Loads files path) ∧
      ((run arguments files standardInput).exitCode = 1 ↔ ¬ Loads files path) := by
  rw [← validate_failure_eq_none_iff, asks.exitCode_eq, execute]
  split <;> simp_all

theorem failsSilently_of_not_loads (asks : Asks arguments path command)
    (hcommand : command ≠ .validate) (h : ¬ Loads files path) :
    (run arguments files standardInput).FailsSilently := by
  apply asks.failsSilently
  cases command with
  | validate => exact absurd rfl hcommand
  | profiles | filter | toInternal | fromInternal => exact withMapper_value_of_not_loads h _

theorem exitCode_of_loads (asks : Asks arguments path command) {use : Mapper → Eventful Result}
    (hcommand : execute files standardInput path command = withMapper files path use)
    (huse : ∀ m, (use m).value.failure = none) (h : Loads files path) :
    (run arguments files standardInput).exitCode = 0 := by
  obtain ⟨m, loaded⟩ := h
  rw [asks.exitCode_eq_zero_iff, hcommand, withMapper_value loaded]
  exact huse m

theorem failsOnlyBy_input (asks : Asks arguments path command) {shape : Json.Value → Prop}
    {use : Mapper → Json.Value → Eventful (Except Failure Json.Value)}
    (hcommand : execute files standardInput path command =
      withMapper files path fun m => withInput files standardInput input (use m))
    (huse : ∀ m value, (∃ result, (use m value).value = .ok result) ↔ shape value)
    (h : Loads files path) : (run arguments files standardInput).FailsOnlyBy
      (InputFault files standardInput input shape) := by
  obtain ⟨m, loaded⟩ := h
  have hvalue : (execute files standardInput path command).value =
      (withInput files standardInput input (use m)).value := by
    rw [hcommand, withMapper_value loaded]
  constructor
  · intro hfault
    apply asks.failsSilently
    rw [hvalue]
    exact hfault.withInput_value fun value result hresult => (huse m value).1 ⟨result, hresult⟩
  · intro hfault
    obtain ⟨value, hinput, hshape⟩ := not_inputFault_iff.1 hfault
    obtain ⟨result, hresult⟩ := (huse m value).2 hshape
    rw [asks.exitCode_eq_zero_iff, hvalue, withInput_value hinput hresult]

end Asks

/-- The validation of a configuration tells how every other command with this configuration ends.
If it fails, they all fail and write nothing, whatever their input is. If it succeeds, the commands
that read no input succeed, and the others fail only by their input and then write nothing. -/
theorem validation_predicts_commands {checking listing : List String}
    (hchecking : Asks checking path .validate) (hlisting : Asks listing path .profiles)
    (files : Files) (checkingInput listingInput : Except ReadFault ByteArray) :
    let checked := run checking files checkingInput
    (checked.exitCode = 0 ∨ checked.exitCode = 1) ∧
    (checked.exitCode = 0 ↔ (run listing files listingInput).exitCode = 0) ∧
    (checked.exitCode = 1 → ∀ arguments standardInput command, command ≠ .validate →
      Asks arguments path command → (run arguments files standardInput).FailsSilently) ∧
    (checked.exitCode = 0 → ∀ arguments standardInput,
      (Asks arguments path .profiles → (run arguments files standardInput).exitCode = 0) ∧
      (∀ profile names, Asks arguments path (.filter profile names) →
        (run arguments files standardInput).exitCode = 0) ∧
      (∀ profile input, Asks arguments path (.toInternal profile input) →
        (run arguments files standardInput).FailsOnlyBy
          (InputFault files standardInput input Json.Value.IsObject)) ∧
      (∀ profile input, Asks arguments path (.fromInternal profile input) →
        (run arguments files standardInput).FailsOnlyBy
          (InputFault files standardInput input Json.Value.IsObjectOfTexts))) := by
  intro checked
  obtain ⟨hsucceeds, hfails⟩ : (checked.exitCode = 0 ↔ Loads files path) ∧
      (checked.exitCode = 1 ↔ ¬ Loads files path) := hchecking.exitCode_validate_iff
  rw [hsucceeds, hfails]
  refine ⟨em _, ⟨hlisting.exitCode_of_loads rfl fun _ => rfl, ?_⟩, ?_, ?_⟩
  · intro hzero
    by_contra hloads
    have hfailed : (run listing files listingInput).FailsSilently :=
      hlisting.failsSilently_of_not_loads (by simp) hloads
    rw [hfailed.exitCode] at hzero
    exact absurd hzero (by decide)
  · intro hloads arguments standardInput command hcommand asks
    exact asks.failsSilently_of_not_loads hcommand hloads
  · intro hloads arguments standardInput
    refine ⟨?_, ?_, ?_, ?_⟩
    · intro asks
      exact asks.exitCode_of_loads rfl (fun _ => rfl) hloads
    · intro profile names asks
      exact asks.exitCode_of_loads rfl (fun _ => rfl) hloads
    · intro profile input asks
      exact asks.failsOnlyBy_input rfl (fun _ _ => exists_internalOf_iff) hloads
    · intro profile input asks
      exact asks.failsOnlyBy_input rfl (fun _ _ => exists_externalOf_iff) hloads

/-- With the address book all is in order until the input is a list. Where there is no file, the
input does not matter. -/
theorem validation_predicts_commands_contacts :
    (run ["-c", "book.json", "validate"] contactsFiles contactInput).exitCode = 0 ∧
      (run ["-c", "book.json", "profiles"] contactsFiles contactInput).exitCode = 0 ∧
      (run ["-c", "book.json", "filter", "-p", "saml", "mail"] contactsFiles
        contactInput).exitCode = 0 ∧
      (run ["-c", "book.json", "from-internal", "-p", "openid"] contactsFiles
        contactInput).exitCode = 0 ∧
      (run ["-c", "book.json", "to-internal", "-p", "saml"] contactsFiles
        (.ok "[]".toUTF8)).FailsSilently ∧
      (run ["-c", "book.json", "validate"] (fun _ => .error .missing) contactInput).exitCode = 1 ∧
      (run ["-c", "book.json", "from-internal", "-p", "openid"] (fun _ => .error .missing)
        contactInput).FailsSilently := by
  have checks : Asks ["-c", "book.json", "validate"] "book.json" .validate := ⟨"warn", by decide⟩
  have lists : Asks ["-c", "book.json", "profiles"] "book.json" .profiles := ⟨"warn", by decide⟩
  have filters : Asks ["-c", "book.json", "filter", "-p", "saml", "mail"] "book.json"
      (.filter "saml" ["mail"]) := ⟨"warn", by decide⟩
  have toSaml : Asks ["-c", "book.json", "to-internal", "-p", "saml"] "book.json"
      (.toInternal "saml" "-") := ⟨"warn", by decide⟩
  have fromOpenid : Asks ["-c", "book.json", "from-internal", "-p", "openid"] "book.json"
      (.fromInternal "openid" "-") := ⟨"warn", by decide⟩
  have loads : Loads contactsFiles "book.json" :=
    ⟨.contacts, Mapper.load_toJson rfl (by decide +kernel)⟩
  have hcontact : ¬ InputFault contactsFiles contactInput "-" Json.Value.IsObjectOfTexts := by
    rw [not_inputFault_iff]
    refine ⟨Mapper.contact.toValue, ?_, ?_⟩
    · rw [contactInput, inputValue?_standardInput]
      exact Json.Value.read?_laidOut (Mapper.contact.readable_toValue.mono (by decide))
    · rw [← Record.isSome_ofValue?_iff, Record.ofValue?_toValue, Option.isSome_some]
  have hlist : InputFault contactsFiles (.ok "[]".toUTF8) "-" Json.Value.IsObject := by
    have htext : inputText contactsFiles (.ok "[]".toUTF8) "-" = .ok "[]" := by
      rw [inputText, if_pos rfl, Files.readText_toUTF8 rfl]
    have hvalue : Json.Value.read? "[]" = some (.list []) := rfl
    refine .misshapen htext hvalue ?_
    rintro ⟨members, hmembers⟩
    cases hmembers
  have missing : ¬ Loads (fun _ => .error .missing) "book.json" := by
    rintro ⟨m, h⟩
    cases h
  have hzero : (run ["-c", "book.json", "validate"] contactsFiles contactInput).exitCode = 0 :=
    checks.exitCode_validate_iff.1.2 loads
  have hone : (run ["-c", "book.json", "validate"] (fun _ => .error .missing)
      contactInput).exitCode = 1 := checks.exitCode_validate_iff.2.2 missing
  obtain ⟨-, hprofiles, -, hsucceeds⟩ :=
    validation_predicts_commands checks lists contactsFiles contactInput contactInput
  obtain ⟨-, -, hfails, -⟩ := validation_predicts_commands checks lists
    (fun _ => .error .missing) contactInput contactInput
  obtain ⟨-, hfilter, -, -⟩ := hsucceeds hzero ["-c", "book.json", "filter", "-p", "saml", "mail"]
    contactInput
  obtain ⟨-, -, -, hexport⟩ := hsucceeds hzero ["-c", "book.json", "from-internal", "-p", "openid"]
    contactInput
  obtain ⟨-, -, himport, -⟩ := hsucceeds hzero ["-c", "book.json", "to-internal", "-p", "saml"]
    (.ok "[]".toUTF8)
  exact ⟨hzero, hprofiles.1 hzero, hfilter _ _ filters, (hexport _ _ fromOpenid).exitCode hcontact,
    (himport _ _ toSaml).failsSilently hlist, hone,
    hfails hone _ _ _ (by simp) fromOpenid⟩

end AttributeProfiles.CommandLine
