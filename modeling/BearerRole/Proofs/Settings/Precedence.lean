import BearerRole.Proofs.Settings.NormalForm

/-!
Which entry decides a field of the settings. Given values rank before the environment, and the environment before a file of variables.
The first of them that sets a field decides it, with a blank value too, and no other entry has a part in what becomes of the field.
-/

namespace BearerRole.Settings.RoleSettings

set_option autoImplicit false

variable {files : Files} {environment : Environment} {given : Fields} {sources : Sources} {field : Text} {entry : Option Value} {v : Value}

inductive Origin
  | given
  | environment
  | envFile

namespace Origin

def rank : Origin → Nat
  | .given => 0
  | .environment => 1
  | .envFile => 2

theorem eq_of_rank {origin other : Origin} (same : origin.rank = other.rank) : origin = other := by
  cases origin <;> cases other <;> cases same <;> rfl

end Origin

def IsVariableOf (field name : Text) : Prop := Text.lower name = variableStart ++ field

/-- A source sets a field to a value. A name in a file of variables that has no value sets nothing. -/
inductive Sets (sources : Sources) (field : Text) : Origin → Value → Prop
  | given {v : Value} (entry : (field, v) ∈ sources.given) : Sets sources field .given v
  | environment {name t : Text} (named : IsVariableOf field name) (entry : (name, t) ∈ sources.environment) :
      Sets sources field .environment (.text t)
  | envFile {name t : Text} (named : IsVariableOf field name) (entry : (name, some t) ∈ sources.envFile) :
      Sets sources field .envFile (.text t)

/-- The entry of the first source that sets a field, or none where no source does. -/
inductive Decides (sources : Sources) (field : Text) : Option Value → Prop
  | entry {origin : Origin} {v : Value} (set : Sets sources field origin v)
      (first : ∀ above : Origin, above.rank < origin.rank → ∀ w, ¬Sets sources field above w) : Decides sources field (some v)
  | default (unset : ∀ origin v, ¬Sets sources field origin v) : Decides sources field none

/-- No source names a field twice, and a given value that has a field's name in some case has the very name. -/
structure NamesOnce (sources : Sources) : Prop where
  exact : ∀ entry ∈ sources.given, Text.lower entry.1 ∈ fieldNames → entry.1 ∈ fieldNames
  given : ∀ field ∈ fieldNames, NamedOnce field sources.given
  environment : ∀ field ∈ fieldNames, NamedOnce (variableStart ++ field) sources.environment
  envFile : ∀ field ∈ fieldNames, NamedOnce (variableStart ++ field) sources.envFile

def found? (sources : Sources) (field : Text) : Origin → Option Value
  | .given => sources.given? field
  | .environment => (sources.environment.find? (variableStart ++ field)).map .text
  | .envFile => (EnvFile.find? sources.envFile (variableStart ++ field)).map .text

theorem found_eq_some_iff (once : NamesOnce sources) (member : field ∈ fieldNames) {origin : Origin} :
    found? sources field origin = some v ↔ Sets sources field origin v := by
  cases origin with
  | given =>
      simp only [found?, Sources.given?, Option.map_eq_some_iff, find_eq_some_iff (once.given field member)]
      constructor
      · rintro ⟨entry, ⟨inside, named⟩, rfl⟩
        have isField : entry.1 ∈ fieldNames := once.exact entry inside (by rwa [named])
        have same : entry.1 = field := (lower_name entry.1 (List.mem_cons_of_mem _ isField)).symm.trans named
        subst same
        exact .given inside
      · intro set
        cases set with
        | given inside => exact ⟨_, ⟨inside, lower_name field (List.mem_cons_of_mem _ member)⟩, rfl⟩
  | environment =>
      simp only [found?, Environment.find?, Option.map_eq_some_iff, find_eq_some_iff (once.environment field member).reverse, List.mem_reverse]
      constructor
      · rintro ⟨t, ⟨entry, ⟨inside, named⟩, rfl⟩, rfl⟩
        exact .environment named inside
      · intro set
        cases set with
        | environment named inside => exact ⟨_, ⟨_, ⟨inside, named⟩, rfl⟩, rfl⟩
  | envFile =>
      simp only [found?, EnvFile.find?, Option.map_eq_some_iff, Option.bind_eq_bind, Option.bind_eq_some_iff,
        find_eq_some_iff (once.envFile field member).reverse, List.mem_reverse]
      constructor
      · rintro ⟨t, ⟨⟨name, _⟩, ⟨inside, named⟩, rfl⟩, rfl⟩
        exact .envFile named inside
      · intro set
        cases set with
        | envFile named inside => exact ⟨_, ⟨_, ⟨inside, named⟩, rfl⟩, rfl⟩

theorem value_of_eq (sources : Sources) (field : Text) :
    valueOf sources field =
      (found? sources field .given).or ((found? sources field .environment).or (found? sources field .envFile)) := by
  rw [valueOf, found?, found?, found?, Sources.variableValue?]
  cases sources.given? field with
  | some v => rfl
  | none => cases sources.environment.find? (variableStart ++ field) <;> rfl

theorem decides_value_of (once : NamesOnce sources) (member : field ∈ fieldNames) : Decides sources field (valueOf sources field) := by
  have unset : ∀ {origin}, found? sources field origin = none → ∀ w, ¬Sets sources field origin w := by
    intro origin none w set
    rw [(found_eq_some_iff once member).mpr set] at none
    cases none
  rw [value_of_eq]
  cases first : found? sources field .given with
  | some v => exact .entry ((found_eq_some_iff once member).mp first) fun above lower => absurd lower (Nat.not_lt_zero _)
  | none =>
      cases second : found? sources field .environment with
      | some v =>
          refine .entry ((found_eq_some_iff once member).mp second) fun above lower => ?_
          cases above with
          | given => exact unset first
          | environment => exact absurd lower (Nat.lt_irrefl _)
          | envFile => exact absurd lower (by decide)
      | none =>
          cases third : found? sources field .envFile with
          | some v =>
              refine .entry ((found_eq_some_iff once member).mp third) fun above lower => ?_
              cases above with
              | given => exact unset first
              | environment => exact unset second
              | envFile => exact absurd lower (Nat.lt_irrefl _)
          | none =>
              refine .default fun origin => ?_
              cases origin with
              | given => exact unset first
              | environment => exact unset second
              | envFile => exact unset third

theorem Decides.unique (once : NamesOnce sources) (member : field ∈ fieldNames) {other : Option Value} (decides : Decides sources field entry)
    (otherDecides : Decides sources field other) : entry = other := by
  cases decides with
  | @entry origin v set first =>
      cases otherDecides with
      | @entry origin' w otherSet otherFirst =>
          -- Neither entry leaves a source above its own, so the two are of one source.
          have notBelow : ¬origin'.rank < origin.rank := fun lower => first origin' lower w otherSet
          have notAbove : ¬origin.rank < origin'.rank := fun lower => otherFirst origin lower v set
          have same : origin = origin' := Origin.eq_of_rank (by omega)
          subst same
          have found := (found_eq_some_iff once member).mpr set
          rw [← found, (found_eq_some_iff once member).mpr otherSet]
      | default unset => exact absurd set (unset origin v)
  | default unset =>
      cases otherDecides with
      | entry otherSet _ => exact absurd otherSet (unset _ _)
      | default _ => rfl

theorem decides_iff (once : NamesOnce sources) (member : field ∈ fieldNames) :
    Decides sources field entry ↔ entry = valueOf sources field := by
  constructor
  · exact fun decides => decides.unique once member (decides_value_of once member)
  · rintro rfl
    exact decides_value_of once member

def checkOf (field : Text) (entry : Option Value) : Except Violation Value :=
  if field = claimPathField then (claimPathOf entry).map .text
  else if field = operatorValueField then (operatorValueOf entry).map .text
  else (optionalOf entry).map .ofText?

theorem check_of_claim_path (entry : Option Value) : checkOf claimPathField entry = (claimPathOf entry).map .text := rfl

theorem check_of_operator_value (entry : Option Value) : checkOf operatorValueField entry = (operatorValueOf entry).map .text := rfl

def standard : RoleSettings := ⟨standardPath, standardOperator, none, none, none⟩

theorem check_of_none : ∀ shown ∈ standard.toFields, checkOf shown.1 none = .ok shown.2 := by
  simp only [toFields, List.forall_mem_cons]
  exact ⟨rfl, rfl, rfl, rfl, rfl, fun _ member => absurd member List.not_mem_nil⟩

theorem check_of_blank {t : Text} (blank : Text.isBlankText t = true) (field : Text) : checkOf field (some (.text t)) = checkOf field none := by
  have hidden : Finds (.text t) none := .nothing (.inr blank)
  rw [checkOf, checkOf, claim_path_of_finds hidden, operator_value_of_finds hidden, optional_of_finds hidden]
  rfl

def optionalFields : List Text := [publicKeyPathField, issuerField, audienceField]

theorem check_of_optional (member : field ∈ optionalFields) (entry : Option Value) :
    checkOf field entry = (optionalOf entry).map .ofText? := by
  have apart : ∀ field ∈ optionalFields, field ≠ claimPathField ∧ field ≠ operatorValueField := by decide
  rw [checkOf, if_neg (apart field member).1, if_neg (apart field member).2]

theorem text_injective : Function.Injective Value.text := fun _ _ same => Value.text.inj same

theorem of_text_injective : Function.Injective Value.ofText? := by
  intro found other same
  cases found <;> cases other <;> cases same <;> rfl

section

variable {α β : Type} {checked : Except Violation α} {f : α → β}

theorem errors_of_map (location : Text) : errorsOf location (checked.map f) = errorsOf location checked := by
  cases checked <;> rfl

theorem map_eq_ok_of_injective (injective : Function.Injective f) {a : α} : checked.map f = .ok (f a) ↔ checked = .ok a := by
  cases checked <;> simp [Except.map, injective.eq_iff]

end

theorem of_sources_eq_ok_iff {s : RoleSettings} :
    ofSources sources = .ok s ↔ ∀ shown ∈ s.toFields, checkOf shown.1 (valueOf sources shown.1) = .ok shown.2 := by
  have fields : (∀ shown ∈ s.toFields, checkOf shown.1 (valueOf sources shown.1) = .ok shown.2) ↔
      claimPathOf (valueOf sources claimPathField) = .ok s.claimPath ∧
        operatorValueOf (valueOf sources operatorValueField) = .ok s.operatorValue ∧
        optionalOf (valueOf sources publicKeyPathField) = .ok s.publicKeyPath ∧
        optionalOf (valueOf sources issuerField) = .ok s.issuer ∧ optionalOf (valueOf sources audienceField) = .ok s.audience := by
    simp (disch := decide) only [toFields, List.forall_mem_cons, check_of_claim_path, check_of_operator_value, check_of_optional,
      map_eq_ok_of_injective text_injective, map_eq_ok_of_injective of_text_injective]
    simp
  rw [fields, ofSources]
  constructor
  · intro made
    split at made
    · next path operator keyPath issuer audience =>
        cases made
        exact ⟨path, operator, keyPath, issuer, audience⟩
    · cases made
  · rintro ⟨path, operator, keyPath, issuer, audience⟩
    rw [path, operator, keyPath, issuer, audience]

theorem settings_of_passes (passes : ∀ field ∈ fieldNames, ∃ v, checkOf field (valueOf sources field) = .ok v) :
    ∃ s, ofSources sources = .ok s := by
  simp only [fieldNames, List.forall_mem_cons] at passes
  obtain ⟨⟨_, path⟩, ⟨_, operator⟩, ⟨_, keyPath⟩, ⟨_, issuer⟩, ⟨_, audience⟩, _⟩ := passes
  obtain ⟨_, path, _⟩ := map_eq_ok_iff.mp path
  obtain ⟨_, operator, _⟩ := map_eq_ok_iff.mp operator
  obtain ⟨_, keyPath, _⟩ := map_eq_ok_iff.mp keyPath
  obtain ⟨_, issuer, _⟩ := map_eq_ok_iff.mp issuer
  obtain ⟨_, audience, _⟩ := map_eq_ok_iff.mp audience
  rw [ofSources, path, operator, keyPath, issuer, audience]
  exact ⟨_, rfl⟩

/-- The error of every field that fails by the entry that decides it, in the order of the fields. -/
def failures (deciding : Text → Option Value) : List FieldError := fieldNames.flatMap fun field => errorsOf field (checkOf field (deciding field))

theorem errors_of_sources {errors : List FieldError} (failed : ofSources sources = .error errors) :
    errors = failures (valueOf sources) := by
  rw [ofSources] at failed
  split at failed
  · cases failed
  · cases failed
    simp (disch := decide) only [failures, fieldNames, List.flatMap_cons, List.flatMap_nil, List.append_nil, List.append_assoc,
      check_of_claim_path, check_of_operator_value, check_of_optional, errors_of_map]

theorem of_sources_eq_error_iff {errors : List FieldError} :
    ofSources sources = .error errors ↔
      (∃ field ∈ fieldNames, ∃ violation, checkOf field (valueOf sources field) = .error violation) ∧
        errors = failures (valueOf sources) := by
  constructor
  · intro failed
    refine ⟨?_, errors_of_sources failed⟩
    by_contra none
    have passes : ∀ field ∈ fieldNames, ∃ v, checkOf field (valueOf sources field) = .ok v := by
      intro field member
      cases checked : checkOf field (valueOf sources field) with
      | ok v => exact ⟨v, rfl⟩
      | error violation => exact absurd ⟨field, member, violation, checked⟩ none
    obtain ⟨s, made⟩ := settings_of_passes passes
    rw [failed] at made
    cases made
  · rintro ⟨⟨field, member, violation, fails⟩, rfl⟩
    cases made : ofSources sources with
    | error errors => rw [errors_of_sources made]
    | ok s =>
        obtain ⟨shown, inside, rfl⟩ := List.mem_map.mp (show field ∈ s.toFields.map Prod.fst from member)
        rw [of_sources_eq_ok_iff.mp made shown inside] at fails
        cases fails

def errorsAt (field : Text) : Except Fault RoleSettings → List FieldError
  | .error (.invalidSettings errors) => errors.filter fun e => e.location = [field]
  | _ => []

/-- A field fails with the same error or not at all, and where both are settings it has the same value. -/
structure AgreeAt (field : Text) (made other : Except Fault RoleSettings) : Prop where
  errors : errorsAt field made = errorsAt field other
  values : ∀ s s', made = .ok s → other = .ok s' → s.toFields.get? field = s'.toFields.get? field

theorem filter_errors_of (location : Text) (checked : Except Violation Value) :
    (errorsOf location checked).filter (fun e => e.location = [field]) = if location = field then errorsOf location checked else [] := by
  cases checked with
  | ok v => rw [errorsOf, List.filter_nil, ite_self]
  | error violation =>
      by_cases same : location = field <;> simp [errorsOf, Violation.at, same]

theorem filter_failures {fields : List Text} (distinct : fields.Nodup) (checked : Text → Except Violation Value) :
    (fields.flatMap fun other => errorsOf other (checked other)).filter (fun e => e.location = [field]) =
      if field ∈ fields then errorsOf field (checked field) else [] := by
  induction fields with
  | nil => rfl
  | cons first rest ih =>
      rw [List.nodup_cons] at distinct
      rw [List.flatMap_cons, List.filter_append, filter_errors_of, ih distinct.2]
      by_cases here : first = field
      · subst here
        rw [if_pos rfl, if_neg distinct.1, if_pos List.mem_cons_self, List.append_nil]
      · have same : field ∈ first :: rest ↔ field ∈ rest := by simp [Ne.symm here]
        rw [if_neg here, List.nil_append]
        simp only [same]

theorem shown_of_field (s : RoleSettings) : ∀ field ∈ fieldNames, ∃ v, (field, v) ∈ s.toFields ∧ s.toFields.get? field = some v := by
  simp only [fieldNames, List.forall_mem_cons]
  refine ⟨⟨_, ?_, rfl⟩, ⟨_, ?_, rfl⟩, ⟨_, ?_, rfl⟩, ⟨_, ?_, rfl⟩, ⟨_, ?_, rfl⟩, fun _ member => absurd member List.not_mem_nil⟩ <;> simp [toFields]

/-- Settings are made of nothing but what decides each field, or refused with the errors of all fields that fail, if any does. -/
structure MadeBy (deciding : Text → Option Value) (made : Except Fault RoleSettings) : Prop where
  passes : ∀ s, made = .ok s ↔ ∀ shown ∈ s.toFields, checkOf shown.1 (deciding shown.1) = .ok shown.2
  fails : ∀ fault, made = .error fault ↔
    (∃ field ∈ fieldNames, ∃ violation, checkOf field (deciding field) = .error violation) ∧ fault = .invalidSettings (failures deciding)

theorem made_by_value_of (loaded : Sources.load files environment given [envFileName] = .ok sources) :
    MadeBy (valueOf sources) (load files environment given) := by
  constructor
  · intro s
    rw [← of_sources_eq_ok_iff, load, loaded, ok_bind]
    cases ofSources sources <;> simp
  · intro fault
    rw [load_eq_error_iff, loaded]
    simp [of_sources_eq_error_iff]

section

variable {deciding deciding' : Text → Option Value} {made made' : Except Fault RoleSettings}

theorem MadeBy.value (madeBy : MadeBy deciding made) (member : field ∈ fieldNames) {s : RoleSettings} (passed : made = .ok s) :
    ∃ v, s.toFields.get? field = some v ∧ checkOf field (deciding field) = .ok v := by
  obtain ⟨v, inside, shows⟩ := shown_of_field s field member
  exact ⟨v, shows, (madeBy.passes s).mp passed (field, v) inside⟩

theorem MadeBy.errors (madeBy : MadeBy deciding made) (member : field ∈ fieldNames) :
    errorsAt field made = errorsOf field (checkOf field (deciding field)) := by
  cases outcome : made with
  | ok s =>
      obtain ⟨v, _, checked⟩ := madeBy.value member outcome
      rw [checked]
      rfl
  | error fault =>
      have distinct : fieldNames.Nodup := by decide
      rw [((madeBy.fails fault).mp outcome).2]
      exact (filter_failures distinct _).trans (if_pos member)

/-- Where one and the same entry decides a field twice, all else about the sources makes no difference to it. -/
theorem MadeBy.agree (first : MadeBy deciding made) (second : MadeBy deciding' made') (member : field ∈ fieldNames)
    (same : deciding field = deciding' field) : AgreeAt field made made' where
  errors := by rw [first.errors member, second.errors member, same]
  values := by
    intro s s' passed passed'
    obtain ⟨v, shows, checked⟩ := first.value member passed
    obtain ⟨w, shows', checked'⟩ := second.value member passed'
    rw [same, checked'] at checked
    rw [shows, shows', Except.ok.inj checked]

end

theorem load_of_content {content : Bytes} {t : Text} (unnamed : given.get? envFileField = none)
    (present : standardContent files = .ok (some content)) (decoded : Utf8.decode? content = some t) :
    Sources.load files environment given [envFileName] = .ok ⟨given, environment, EnvFile.read environment t⟩ := by
  rw [load_standard unnamed, present]
  simp only [EnvFile.ofContent, decoded]
  rfl

/-- Where no other file is named, the sources are there if the standard file can be read as UTF-8, or is missing. -/
theorem exists_parsed (unnamed : given.get? envFileField = none)
    (readable : HasReadableStandard files) :
    ∃ parsed, Sources.load files environment given [envFileName] = .ok ⟨given, environment, parsed⟩ := by
  obtain ⟨found, present, decodable⟩ := readable
  cases found with
  | none =>
      refine ⟨[], ?_⟩
      rw [load_standard unnamed, present]
  | some content =>
      obtain ⟨t, decoded⟩ := Option.isSome_iff_exists.mp (decodable content rfl)
      exact ⟨_, load_of_content unnamed present decoded⟩

/-- Each field of settings is decided by one entry, that of the first source that sets it, or by there being none; and the settings
come to what the checks make of these entries. They are refused if a field fails, with one error for each that does. Other settings
for which the same entry decides a field agree with them there. Where no source sets a field it has its default, and the same where
the first entry is blank. -/
theorem load_by_first_entries :
    (given.get? envFileField = none → HasReadableStandard files →
        ∃ parsed, Sources.load files environment given [envFileName] = .ok ⟨given, environment, parsed⟩) ∧
      (∀ parsed, Sources.load files environment given [envFileName] = .ok ⟨given, environment, parsed⟩ →
        NamesOnce ⟨given, environment, parsed⟩ → ∃ deciding : Text → Option Value,
          (∀ field ∈ fieldNames, ∀ entry, Decides ⟨given, environment, parsed⟩ field entry ↔ entry = deciding field) ∧
          MadeBy deciding (load files environment given) ∧
          ∀ files' environment' given' parsed',
            Sources.load files' environment' given' [envFileName] = .ok ⟨given', environment', parsed'⟩ →
            NamesOnce ⟨given', environment', parsed'⟩ → ∀ field ∈ fieldNames,
              Decides ⟨given', environment', parsed'⟩ field (deciding field) →
                AgreeAt field (load files environment given) (load files' environment' given')) ∧
      (∀ shown ∈ standard.toFields, checkOf shown.1 none = .ok shown.2) ∧
      ∀ t, Text.isBlankText t = true → ∀ field, checkOf field (some (.text t)) = checkOf field none := by
  refine ⟨exists_parsed, ?_, check_of_none, fun t blank => check_of_blank blank⟩
  intro parsed loaded once
  refine ⟨valueOf ⟨given, environment, parsed⟩, fun field member entry => decides_iff once member, made_by_value_of loaded, ?_⟩
  intro files' environment' given' parsed' loaded' once' field member decides
  exact (made_by_value_of loaded).agree (made_by_value_of loaded') member ((decides_iff once' member).mp decides)

/-- A blank variable hides the issuer that the file names, with a given claim path and with one in the environment that is refused. -/
theorem issuer_hidden_by_blank :
    let content := text "ROLE_EXTRACTOR_ISSUER=accounts\nrole_extractor_audience='gate '"
    let files := Files.empty.put (Files.here ++ [Files.bytesOf ".env"]) (.file (content.map UInt8.ofNat))
    let environment : Environment := [(text "ROLE_EXTRACTOR_ISSUER", text " "), (text "Role_Extractor_Claim_Path", text "a..b"),
      (text "ROLE_EXTRACTOR_OPERATOR_VALUE", text "admin")]
    let given : Fields := [(claimPathField, .ofText "realm_access.roles"), (operatorValueField, .ofText "")]
    let parsed : EnvFile.Values := [(text "ROLE_EXTRACTOR_ISSUER", some (text "accounts")), (text "role_extractor_audience", some (text "gate "))]
    let s : RoleSettings := ⟨text "realm_access.roles", text "operator", none, none, some (text "gate ")⟩
    Sources.load files environment given [envFileName] = .ok ⟨given, environment, parsed⟩ ∧ NamesOnce ⟨given, environment, parsed⟩ ∧
      Decides ⟨given, environment, parsed⟩ issuerField (some (.ofText " ")) ∧ checkOf issuerField (some (.ofText " ")) = .ok .null ∧
      load files environment given = .ok s ∧
      load Files.empty environment [] = .error (.invalidSettings [emptyKey (text "a..b")]) ∧
      AgreeAt issuerField (load files environment given) (load Files.empty environment []) := by
  intro content files environment given parsed s
  have present : standardContent files = .ok (some (content.map UInt8.ofNat)) := by rfl
  have decoded : Utf8.decode? (content.map UInt8.ofNat) = some content := by decide +kernel
  have read : EnvFile.read environment content = parsed := by decide +kernel
  have loaded : Sources.load files environment given [envFileName] = .ok ⟨given, environment, parsed⟩ := by
    rw [← read]
    exact load_of_content rfl present decoded
  have once : NamesOnce ⟨given, environment, parsed⟩ := by
    constructor
    · decide +kernel
    · exact fun _ _ => named_once_of_distinct (by decide +kernel)
    · exact fun _ _ => named_once_of_distinct (by decide +kernel)
    · exact fun _ _ => named_once_of_distinct (by decide +kernel)
  have decides : ∀ given parsed, (∀ entry ∈ given, entry.1 ≠ issuerField) →
      Decides ⟨given, environment, parsed⟩ issuerField (some (.ofText " ")) := by
    intro given parsed absent
    have named : Text.lower (text "ROLE_EXTRACTOR_ISSUER") = variableStart ++ issuerField := by decide +kernel
    refine .entry (.environment named List.mem_cons_self) fun above lower w set => ?_
    cases set with
    | given inside => exact absent _ inside rfl
    | environment _ _ => exact absurd lower (Nat.lt_irrefl _)
    | envFile _ _ => exact absurd lower (by decide)
  have loaded' : Sources.load Files.empty environment [] [envFileName] = .ok ⟨[], environment, []⟩ := rfl
  have once' : NamesOnce ⟨[], environment, []⟩ := ⟨by simp, by simp [NamedOnce], once.environment, by simp [NamedOnce]⟩
  have made : ofSources ⟨given, environment, parsed⟩ = .ok s := by decide +kernel
  have issuer : issuerField ∈ fieldNames := by decide
  have here : Decides ⟨given, environment, parsed⟩ issuerField (some (.ofText " ")) := decides given parsed (by decide +kernel)
  obtain ⟨_, decided, defaults, blanks⟩ := @load_by_first_entries files environment given
  obtain ⟨deciding, decidesIff, _, others⟩ := decided parsed loaded once
  have unset : checkOf issuerField none = .ok .null := defaults (issuerField, .null) (by decide)
  have agree : AgreeAt issuerField (load files environment given) (load Files.empty environment []) := by
    apply others Files.empty environment [] [] loaded' once' issuerField issuer
    rw [← (decidesIff issuerField issuer _).mp here]
    exact decides [] [] (by simp)
  refine ⟨loaded, once, here, (blanks (text " ") (by decide) issuerField).trans unset, ?_, rfl, agree⟩
  rw [load, loaded, ok_bind, made]

end BearerRole.Settings.RoleSettings
