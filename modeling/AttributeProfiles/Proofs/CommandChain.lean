import AttributeProfiles.CommandLine.Run
import AttributeProfiles.Proofs.Building
import AttributeProfiles.Proofs.ConfigText
import AttributeProfiles.Proofs.RecordText

/-!
# Commands in a row

What one command writes to the standard output, another can read from the standard input. An import
writes a record that an export accepts, and it reads exactly the record that was imported; the other
way round this holds as long as the names of the profile do not nest too deep.
-/

namespace AttributeProfiles

theorem Mapper.load_toJson {files : Files} {path : String} {m : Mapper}
    (stored : files path = .ok m.config.toJson.toUTF8)
    (hpath : Config.Format.ofPath path = .json) : (load files path).value = .ok m := by
  unfold load Config.load
  simp only [Logged.bind_value, Config.read_toJson stored hpath, Logged.pure_value]
  exact m.build_config

namespace CommandLine

/-- The arguments ask for a command with the configuration at a path. -/
def Asks (arguments : List String) (path : String) (command : Command) : Prop :=
  ∃ logLevel, request? arguments = some (.run ⟨path, logLevel, command⟩)

def inputValue? (files : Files) (standardInput : Except ReadFault ByteArray) (input : String) :
    Option Json.Value :=
  (inputText files standardInput input).toOption.bind Json.Value.read?

def externalInput? (files : Files) (standardInput : Except ReadFault ByteArray) (input : String) :
    Option ExternalRecord :=
  (inputValue? files standardInput input).bind ExternalRecord.ofValue?

def internalInput? (files : Files) (standardInput : Except ReadFault ByteArray) (input : String) :
    Option Record :=
  (inputValue? files standardInput input).bind Record.ofValue?

/-- A run succeeds and writes a value, laid out on its lines. -/
structure Outcome.Writes (o : Outcome) (value : Json.Value) : Prop where
  exitCode : o.exitCode = 0
  output : o.output = value.laidOut ++ "\n"

/-- What a run has written, as the standard input of another. -/
def Outcome.piped (o : Outcome) : Except ReadFault ByteArray := .ok o.output.toUTF8

variable {files : Files} {standardInput : Except ReadFault ByteArray} {path input : String}
variable {arguments : List String} {m : Mapper} {profile : String}

theorem inputValue?_standardInput (files : Files) (text : String) :
    inputValue? files (.ok text.toUTF8) "-" = Json.Value.read? text := by
  have htext : inputText files (.ok text.toUTF8) "-" = .ok text := by
    rw [inputText, if_pos rfl, Files.readText_toUTF8 rfl]
  rw [inputValue?, htext]
  rfl

theorem Outcome.Writes.inputValue? {o : Outcome} {value : Json.Value} (h : o.Writes value)
    (readable : Json.Readable Json.maxDepth value) (files : Files) :
    inputValue? files o.piped "-" = some value := by
  rw [Outcome.piped, inputValue?_standardInput, h.output]
  exact Json.Value.read?_laidOut readable

theorem withMapper_value (loaded : (Mapper.load files path).value = .ok m)
    (use : Mapper → Eventful Result) : (withMapper files path use).value = (use m).value := by
  rw [withMapper, Logged.bind_value, loaded]

theorem withInput_value {use : Json.Value → Eventful (Except Failure Json.Value)}
    {value result : Json.Value} (hinput : inputValue? files standardInput input = some value)
    (huse : (use value).value = .ok result) :
    (withInput files standardInput input use).value = ⟨result.laidOut ++ "\n", none⟩ := by
  unfold inputValue? at hinput
  cases htext : inputText files standardInput input with
  | error failure => simp [htext, Except.toOption] at hinput
  | ok text =>
    have hread : Json.Value.read? text = some value := by
      simpa [htext, Except.toOption] using hinput
    unfold withInput
    rw [htext]
    simp only [Logged.bind_value, hread, huse, Logged.pure_value]

theorem Asks.run_writes {command : Command} (asks : Asks arguments path command)
    {value : Json.Value}
    (h : (execute files standardInput path command).value = ⟨value.laidOut ++ "\n", none⟩) :
    (run arguments files standardInput).Writes value := by
  obtain ⟨logLevel, hrequest⟩ := asks
  unfold run
  rw [hrequest]
  unfold Invocation.run
  dsimp only
  rw [h]
  exact ⟨rfl, rfl⟩

theorem Asks.writes_toInternal (asks : Asks arguments path (.toInternal profile input))
    (loaded : (Mapper.load files path).value = .ok m) {external : ExternalRecord}
    (hinput : externalInput? files standardInput input = some external) :
    (run arguments files standardInput).Writes (m.toInternal profile external).value.toValue := by
  obtain ⟨value, hvalue, hexternal⟩ := Option.bind_eq_some_iff.1 hinput
  apply asks.run_writes
  rw [execute, withMapper_value loaded]
  apply withInput_value hvalue
  rw [internalOf, hexternal]
  rfl

theorem Asks.writes_fromInternal (asks : Asks arguments path (.fromInternal profile input))
    (loaded : (Mapper.load files path).value = .ok m) {internal : Record}
    (hinput : internalInput? files standardInput input = some internal) :
    (run arguments files standardInput).Writes
      (ExternalRecord.toValue (m.fromInternal profile internal).value) := by
  obtain ⟨value, hvalue, hinternal⟩ := Option.bind_eq_some_iff.1 hinput
  apply asks.run_writes
  rw [execute, withMapper_value loaded]
  apply withInput_value hvalue
  rw [externalOf, hinternal]
  rfl

theorem Outcome.Writes.internalInput? {o : Outcome} {r : Record} (h : o.Writes r.toValue)
    (files : Files) : internalInput? files o.piped "-" = some r := by
  have readable : Json.Readable Json.maxDepth r.toValue := r.readable_toValue.mono (by decide)
  rw [CommandLine.internalInput?, h.inputValue? readable, Option.bind_some, Record.ofValue?_toValue]

theorem Outcome.Writes.externalInput? {o : Outcome} {r : ExternalRecord} (h : o.Writes r.toValue)
    (readable : Json.Readable Json.maxDepth r.toValue) (files : Files) :
    externalInput? files o.piped "-" = some r := by
  rw [CommandLine.externalInput?, h.inputValue? readable, Option.bind_some,
    ExternalRecord.ofValue?_toValue]

/-- What an import writes, an export reads as the record that was imported, and goes on from there.
The other way round this holds where the first names of the profile have at most 125 separators:
the object and the list of values are two more levels, which makes 127. -/
theorem commands_fit_together (loaded : (Mapper.load files path).value = .ok m) (p q : String) :
    (∀ external arguments standardInput input, Asks arguments path (.toInternal p input) →
      externalInput? files standardInput input = some external →
        let internal := (m.toInternal p external).value
        let outcome := run arguments files standardInput
        outcome.Writes internal.toValue ∧ internalInput? files outcome.piped "-" = some internal ∧
          ∀ others, Asks others path (.fromInternal q "-") →
            (run others files outcome.piped).Writes
              (ExternalRecord.toValue (m.fromInternal q internal).value)) ∧
      (m.NestsWithin q 125 → ∀ internal arguments standardInput input,
        Asks arguments path (.fromInternal q input) →
          internalInput? files standardInput input = some internal →
            let external := (m.fromInternal q internal).value
            let outcome := run arguments files standardInput
            outcome.Writes external.toValue ∧
              externalInput? files outcome.piped "-" = some external ∧
              ∀ others, Asks others path (.toInternal p "-") →
                (run others files outcome.piped).Writes
                  (m.toInternal p external).value.toValue) := by
  constructor
  · intro external arguments standardInput input asks hinput internal outcome
    have hwrites : outcome.Writes internal.toValue := asks.writes_toInternal loaded hinput
    have hreads : internalInput? files outcome.piped "-" = some internal :=
      hwrites.internalInput? files
    exact ⟨hwrites, hreads, fun others next => next.writes_fromInternal loaded hreads⟩
  · intro nests internal arguments standardInput input asks hinput external outcome
    have hwrites : outcome.Writes external.toValue := asks.writes_fromInternal loaded hinput
    have hreads : externalInput? files outcome.piped "-" = some external :=
      hwrites.externalInput? (nests.readable_fromInternal internal) files
    exact ⟨hwrites, hreads, fun others next => next.writes_toInternal loaded hreads⟩

def contactsFiles : Files := fun _ => .ok Config.contacts.toJson.toUTF8

def contactClaimsInput : Except ReadFault ByteArray :=
  .ok (Mapper.contactClaims.toValue.laidOut ++ "\n").toUTF8

def contactInput : Except ReadFault ByteArray :=
  .ok (Mapper.contact.toValue.laidOut ++ "\n").toUTF8

theorem commands_fit_together_contacts :
    (Mapper.load contactsFiles "book.json").value = .ok .contacts ∧
      Mapper.contacts.NestsWithin "openid" 125 ∧
      (let imported := run ["-c", "book.json", "to-internal", "-p", "saml"] contactsFiles
          contactClaimsInput
        let exported := run ["-c", "book.json", "from-internal", "-p", "openid"] contactsFiles
          imported.piped
        imported.Writes (.object [("domain", .texts ["example.org"]),
            ("mail", .texts ["ann@example.org"])]) ∧
          exported.Writes (.object [("email", .texts ["ann@example.org"])])) ∧
      (let exported := run ["-c", "book.json", "from-internal", "-p", "openid"] contactsFiles
          contactInput
        let imported := run ["-c", "book.json", "to-internal", "-p", "saml"] contactsFiles
          exported.piped
        exported.Writes (.object [("email", .texts ["ann@example.org", ""])]) ∧
          imported.Writes (.object [("domain", .texts ["example.org"]),
            ("mail", .texts ["ann@example.org", ""])])) := by
  have loaded : (Mapper.load contactsFiles "book.json").value = .ok .contacts :=
    Mapper.load_toJson rfl (by decide +kernel)
  have nests : Mapper.contacts.NestsWithin "openid" 125 := by
    have hcount : ∀ name ∈ Mapper.contacts.listedNames "openid",
        name.toList.count Mapper.contacts.options.separator ≤ 125 := by decide
    intro a name hfirst
    exact hcount name (Mapper.contacts.mem_listedNames_iff.2 ⟨a, List.mem_of_mem_head? hfirst⟩)
  have toSaml : Asks ["-c", "book.json", "to-internal", "-p", "saml"] "book.json"
      (.toInternal "saml" "-") := ⟨"warn", by decide⟩
  have fromOpenid : Asks ["-c", "book.json", "from-internal", "-p", "openid"] "book.json"
      (.fromInternal "openid" "-") := ⟨"warn", by decide⟩
  have hclaims : externalInput? contactsFiles contactClaimsInput "-" =
      some Mapper.contactClaims := by
    have readable : Json.Readable Json.maxDepth (ExternalRecord.toValue Mapper.contactClaims) := by
      refine .object (by decide) fun member hmember => ?_
      rw [List.mem_singleton.1 hmember]
      exact .texts _ _
    rw [externalInput?, contactClaimsInput, inputValue?_standardInput,
      Json.Value.read?_laidOut readable, Option.bind_some, ExternalRecord.ofValue?_toValue]
  have hcontact : internalInput? contactsFiles contactInput "-" = some Mapper.contact := by
    rw [internalInput?, contactInput, inputValue?_standardInput,
      Json.Value.read?_laidOut (Mapper.contact.readable_toValue.mono (by decide)),
      Option.bind_some, Record.ofValue?_toValue]
  obtain ⟨forth, back⟩ := commands_fit_together loaded "saml" "openid"
  obtain ⟨himported, -, hexported⟩ := forth _ _ _ _ toSaml hclaims
  obtain ⟨hexported', -, himported'⟩ := back nests _ _ _ _ fromOpenid hcontact
  exact ⟨loaded, nests, ⟨himported, hexported _ fromOpenid⟩, ⟨hexported', himported' _ toSaml⟩⟩

end CommandLine

end AttributeProfiles
