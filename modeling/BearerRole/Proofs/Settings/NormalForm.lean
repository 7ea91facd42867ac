import BearerRole.Proofs.Settings.Sources
import BearerRole.Proofs.Text.Trimming

/-!
The normal form of settings. Settings that are made of texts and nulls are in it, whatever the mix of sources, and settings in it are
made again of their own fields. Nothing is refused but a claim path with an empty key.
-/

namespace BearerRole.Settings

set_option autoImplicit false

variable {files : Files} {environment : Environment} {given : Fields} {sources : Sources} {v : Value} {t : Text}

/-- Bytes are not among them: they are read as text too, but only after the blanks have been looked for. -/
inductive IsTextual : Value → Prop
  | null : IsTextual .null
  | text (t : Text) : IsTextual (.text t)
  | role (r : Role) : IsTextual (.role r)

/-- The text that a value sets. Null and blank text set none. -/
def visible? (v : Value) : Option Text := v.asText?.filter fun t => !Text.isBlankText t

theorem not_blank_of_visible (visible : visible? v = some t) : Text.isBlankText t = false := by
  have kept := (Option.filter_eq_some_iff.mp visible).2
  rwa [Bool.not_eq_true'] at kept

theorem visible_of_text (is : v.asText? = some t) (seen : Text.isBlankText t = false) : visible? v = some t := by
  rw [visible?, is, Option.filter_some, seen]
  rfl

theorem text_of_text (is : v.asText? = some t) : textOf v = .ok t := by
  cases v <;> cases is <;> rfl

/-- What the checks of a field find in a value, with the text that it sets. -/
inductive Finds (v : Value) : Option Text → Prop
  | nothing (plain : v = .null ∨ isBlankValue v = true) : Finds v none
  | something (t : Text) (is : v.asText? = some t) (valued : v ≠ .null) (seen : isBlankValue v = false) : Finds v (some t)

theorem finds_of_text (is : v.asText? = some t) : Finds v (visible? v) := by
  have blankness : isBlankValue v = Text.isBlankText t := by rw [isBlankValue, is]
  cases blank : Text.isBlankText t with
  | true =>
      have hidden : visible? v = none := by
        rw [visible?, is, Option.filter_some, blank]
        rfl
      rw [hidden]
      exact .nothing (.inr (blankness.trans blank))
  | false =>
      have valued : v ≠ .null := by
        rintro rfl
        cases is
      rw [visible_of_text is blank]
      exact .something t is valued (blankness.trans blank)

theorem IsTextual.finds (textual : IsTextual v) : Finds v (visible? v) := by
  cases textual with
  | null => exact .nothing (.inl rfl)
  | text t => exact finds_of_text rfl
  | role r => exact finds_of_text rfl

namespace RoleSettings

theorem claim_path_of_finds {found : Option Text} (finds : Finds v found) :
    claimPathOf (some v) = checkPath ((found.map Text.trim).getD standardPath) := by
  cases finds with
  | nothing plain =>
      have standard : normalPath v = .text standardPath := by
        rw [normalPath, if_pos]
        simpa using plain
      rw [claimPathOf, standard]
      rfl
  | something t is valued seen =>
      have trimmed : normalPath v = .text (Text.trim t) := by
        rw [normalPath, if_neg (by simp [valued, seen]), is]
      rw [claimPathOf, trimmed]
      rfl

theorem operator_value_of_finds {found : Option Text} (finds : Finds v found) :
    operatorValueOf (some v) = .ok (found.getD standardOperator) := by
  rw [operatorValueOf]
  cases finds with
  | nothing plain =>
      rw [if_pos (by simpa using plain)]
      rfl
  | something t is valued seen =>
      rw [if_neg (by simp [valued, seen]), text_of_text is]
      rfl

theorem optional_of_finds {found : Option Text} (finds : Finds v found) : optionalOf (some v) = .ok found := by
  rw [optionalOf]
  cases finds with
  | nothing plain =>
      rcases plain with rfl | blank
      · rfl
      · rw [if_pos blank]
  | something t is valued seen =>
      rw [if_neg (by simp [seen]), optionalTextOf, text_of_text is]
      · rfl
      · exact valued

def fieldNames : List Text := [claimPathField, operatorValueField, publicKeyPathField, issuerField, audienceField]

def set? (sources : Sources) (field : Text) : Option Text := (valueOf sources field).bind visible?

def pathOf (sources : Sources) : Text := ((set? sources claimPathField).map Text.trim).getD standardPath

def settingsOf (sources : Sources) : RoleSettings where
  claimPath := pathOf sources
  operatorValue := (set? sources operatorValueField).getD standardOperator
  publicKeyPath := set? sources publicKeyPathField
  issuer := set? sources issuerField
  audience := set? sources audienceField

def emptyKey (path : Text) : FieldError :=
  (Violation.rejected (text "claim_path must not contain empty segments, got " ++ path.inspect)).at claimPathField

theorem check_path_eq (path : Text) :
    checkPath path = if [] ∈ Text.split Claim.dot path then
      .error (.rejected (text "claim_path must not contain empty segments, got " ++ path.inspect)) else .ok path := by
  have any_empty : (Text.split Claim.dot path).any List.isEmpty = true ↔ [] ∈ Text.split Claim.dot path := by
    rw [List.any_eq_true]
    constructor
    · rintro ⟨key, member, empty⟩
      rwa [List.isEmpty_iff.mp empty] at member
    · exact fun member => ⟨[], member, rfl⟩
  rw [checkPath]
  simp only [any_empty]

def AreTextual (sources : Sources) : Prop := ∀ field ∈ fieldNames, ∀ v ∈ valueOf sources field, IsTextual v

theorem of_sources_eq (textual : AreTextual sources) :
    ofSources sources =
      if [] ∈ Text.split Claim.dot (pathOf sources) then .error [emptyKey (pathOf sources)] else .ok (settingsOf sources) := by
  have path : claimPathOf (valueOf sources claimPathField) = checkPath (pathOf sources) := by
    have textual := textual claimPathField (by simp [fieldNames])
    rw [pathOf, set?]
    cases found : valueOf sources claimPathField with
    | none => rfl
    | some v => exact claim_path_of_finds (textual v found).finds
  have operator : operatorValueOf (valueOf sources operatorValueField) =
      .ok ((set? sources operatorValueField).getD standardOperator) := by
    have textual := textual operatorValueField (by simp [fieldNames])
    rw [set?]
    cases found : valueOf sources operatorValueField with
    | none => rfl
    | some v => exact operator_value_of_finds (textual v found).finds
  have optional : ∀ field ∈ fieldNames, optionalOf (valueOf sources field) = .ok (set? sources field) := by
    intro field member
    have textual := textual field member
    rw [set?]
    cases found : valueOf sources field with
    | none => rfl
    | some v => exact optional_of_finds (textual v found).finds
  have keyPath := optional publicKeyPathField (by simp [fieldNames])
  have issuer := optional issuerField (by simp [fieldNames])
  have audience := optional audienceField (by simp [fieldNames])
  rw [ofSources, path, operator, keyPath, issuer, audience, check_path_eq]
  by_cases empty : [] ∈ Text.split Claim.dot (pathOf sources)
  · simp only [if_pos empty]
    rfl
  · simp only [if_neg empty]
    rfl

theorem given_of_load {standardFiles : List Text} (loaded : Sources.load files environment given standardFiles = .ok sources) :
    sources.given = given := by
  rw [load_eq] at loaded
  obtain ⟨paths, _, loaded⟩ := bind_eq_ok_iff.mp loaded
  obtain ⟨values, _, loaded⟩ := bind_eq_ok_iff.mp loaded
  cases loaded
  rfl

theorem are_textual (textual : ∀ entry ∈ sources.given, Text.lower entry.1 ∈ fieldNames → IsTextual entry.2) :
    AreTextual sources := by
  intro field member v found
  rw [Option.mem_def, valueOf] at found
  split at found
  · next first outright =>
      cases found
      obtain ⟨entry, sought, rfl⟩ := Option.map_eq_some_iff.mp outright
      have named := List.find?_some sought
      rw [beq_iff_eq] at named
      exact textual entry (List.mem_of_find?_eq_some sought) (by rwa [named])
  · obtain ⟨t, _, rfl⟩ := Option.map_eq_some_iff.mp found
    exact .text t

theorem load_of_sources (loaded : Sources.load files environment given [envFileName] = .ok sources) (textual : AreTextual sources) :
    load files environment given =
      if [] ∈ Text.split Claim.dot (pathOf sources) then .error (.invalidSettings [emptyKey (pathOf sources)])
      else .ok (settingsOf sources) := by
  rw [load, loaded, ok_bind, of_sources_eq textual]
  by_cases empty : [] ∈ Text.split Claim.dot (pathOf sources)
  · simp only [if_pos empty]
  · simp only [if_neg empty]

structure IsNormal (s : RoleSettings) : Prop where
  bare : Text.IsBare s.claimPath
  keys : [] ∉ Text.split Claim.dot s.claimPath
  operator : Text.isBlankText s.operatorValue = false
  keyPath : ∀ t ∈ s.publicKeyPath, Text.isBlankText t = false
  issuer : ∀ t ∈ s.issuer, Text.isBlankText t = false
  audience : ∀ t ∈ s.audience, Text.isBlankText t = false

theorem set_not_blank {field : Text} (set : set? sources field = some t) : Text.isBlankText t = false := by
  obtain ⟨v, _, visible⟩ := Option.bind_eq_some_iff.mp set
  exact not_blank_of_visible visible

theorem settings_normal (keys : [] ∉ Text.split Claim.dot (pathOf sources)) : (settingsOf sources).IsNormal where
  bare := by
    show Text.IsBare (pathOf sources)
    rw [pathOf]
    cases set? sources claimPathField with
    | none => exact ⟨by decide, by decide⟩
    | some t => exact Text.trim_bare t
  keys := keys
  operator := by
    show Text.isBlankText ((set? sources operatorValueField).getD standardOperator) = false
    cases set : set? sources operatorValueField with
    | none => decide
    | some t => exact set_not_blank set
  keyPath := fun _ set => set_not_blank set
  issuer := fun _ set => set_not_blank set
  audience := fun _ set => set_not_blank set

theorem visible_optional {found : Option Text} (seen : ∀ t ∈ found, Text.isBlankText t = false) :
    visible? (.ofText? found) = found := by
  cases found with
  | none => rfl
  | some t => exact visible_of_text rfl (seen t rfl)

theorem IsNormal.path_seen {s : RoleSettings} (normal : s.IsNormal) : Text.isBlankText s.claimPath = false := by
  rw [← Bool.not_eq_true]
  intro blank
  apply normal.keys
  rw [← normal.bare.trim_eq, Text.trim_eq_nil_iff.mpr blank]
  exact List.mem_singleton_self []

theorem settings_of_fields {s : RoleSettings} (normal : s.IsNormal)
    (fields : ∀ entry ∈ s.toFields, valueOf sources entry.1 = some entry.2) : settingsOf sources = s := by
  simp only [toFields, List.forall_mem_cons] at fields
  obtain ⟨path, operator, keyPath, issuer, audience, _⟩ := fields
  have setPath : set? sources claimPathField = some s.claimPath := by
    rw [set?, path]
    exact visible_of_text rfl normal.path_seen
  have setOperator : set? sources operatorValueField = some s.operatorValue := by
    rw [set?, operator]
    exact visible_of_text rfl normal.operator
  have setKeyPath : set? sources publicKeyPathField = s.publicKeyPath := by
    rw [set?, keyPath]
    exact visible_optional normal.keyPath
  have setIssuer : set? sources issuerField = s.issuer := by
    rw [set?, issuer]
    exact visible_optional normal.issuer
  have setAudience : set? sources audienceField = s.audience := by
    rw [set?, audience]
    exact visible_optional normal.audience
  rw [settingsOf, pathOf, setPath, setOperator, setKeyPath, setIssuer, setAudience]
  show RoleSettings.mk (Text.trim s.claimPath) s.operatorValue s.publicKeyPath s.issuer s.audience = s
  rw [normal.bare.trim_eq]

theorem textual_of_fields {s : RoleSettings} : ∀ entry ∈ s.toFields, IsTextual entry.2 := by
  have optional : ∀ found : Option Text, IsTextual (.ofText? found) := by
    intro found
    cases found with
    | none => exact .null
    | some t => exact .text t
  simp only [toFields, List.forall_mem_cons]
  exact ⟨.text _, .text _, optional _, optional _, optional _, fun _ member => absurd member List.not_mem_nil⟩

theorem lower_name : ∀ name ∈ envFileField :: fieldNames, Text.lower name = name := by decide +kernel

theorem find_of_mem {fields : Fields} (distinct : (fields.map fun entry => Text.lower entry.1).Nodup) {entry : Text × Value}
    (member : entry ∈ fields) : fields.find? (fun other => Text.lower other.1 == Text.lower entry.1) = some entry :=
  (find_eq_some_iff (named_once_of_distinct distinct)).mpr ⟨member, rfl⟩

theorem load_of_fields {s : RoleSettings} (normal : s.IsNormal)
    (loaded : Sources.load files environment given [envFileName] = .ok sources)
    (distinct : (given.map fun entry => Text.lower entry.1).Nodup) (textual : ∀ entry ∈ given, IsTextual entry.2)
    (among : ∀ entry ∈ s.toFields, entry ∈ given) : load files environment given = .ok s := by
  rw [← given_of_load loaded] at distinct textual among
  have fields : ∀ entry ∈ s.toFields, valueOf sources entry.1 = some entry.2 := by
    intro entry member
    have named : entry.1 ∈ fieldNames := List.mem_map_of_mem member
    have found := find_of_mem distinct (among entry member)
    rw [lower_name entry.1 (List.mem_cons_of_mem _ named)] at found
    rw [valueOf, Sources.given?, found]
    rfl
  have again : settingsOf sources = s := settings_of_fields normal fields
  have path : pathOf sources = s.claimPath := congrArg claimPath again
  rw [load_of_sources loaded (are_textual fun entry member _ => textual entry member), path, if_neg normal.keys, again]

/-- Settings in normal form are made again of their own fields, whatever the environment, where no file of variables is read: because
there is none, or because none shall be. -/
theorem load_to_fields {s : RoleSettings} (normal : s.IsNormal) (files : Files) (environment : Environment) :
    (standardContent files = .ok none → load files environment s.toFields = .ok s) ∧
      load files environment ((envFileField, .null) :: s.toFields) = .ok s := by
  have distinct : (((envFileField, Value.null) :: s.toFields).map fun entry => Text.lower entry.1).Nodup := by
    show ((envFileField :: fieldNames).map Text.lower).Nodup
    rw [List.map_congr_left (g := id) lower_name, List.map_id]
    decide
  constructor
  · intro none
    have loaded : Sources.load files environment s.toFields [envFileName] = .ok ⟨s.toFields, environment, []⟩ := by
      rw [load_standard rfl, none]
    exact load_of_fields normal loaded (List.nodup_cons.mp distinct).2 textual_of_fields fun _ member => member
  · have loaded : Sources.load files environment ((envFileField, .null) :: s.toFields) [envFileName] =
        .ok ⟨(envFileField, .null) :: s.toFields, environment, []⟩ := rfl
    exact load_of_fields normal loaded distinct (List.forall_mem_cons.mpr ⟨.null, textual_of_fields⟩) fun _ member =>
      List.mem_cons_of_mem _ member

/-- The claim path that sources set has an empty key once it is trimmed. -/
structure HasEmptyKey (sources : Sources) (t : Text) : Prop where
  set : set? sources claimPathField = some t
  key : [] ∈ Text.split Claim.dot (Text.trim t)

theorem empty_key_iff : [] ∈ Text.split Claim.dot (pathOf sources) ↔ ∃ t, HasEmptyKey sources t := by
  constructor
  · intro empty
    cases set : set? sources claimPathField with
    | none =>
        rw [pathOf, set] at empty
        exact absurd empty (by decide)
    | some t =>
        rw [pathOf, set] at empty
        exact ⟨t, set, empty⟩
  · rintro ⟨t, set, key⟩
    rw [pathOf, set]
    exact key

theorem HasEmptyKey.path_eq (has : HasEmptyKey sources t) : pathOf sources = Text.trim t := by
  rw [pathOf, has.set]
  rfl

/-- Settings that are made of texts and nulls are in normal form: the claim path is trimmed and has no empty key, and no text is blank.
So they are made again of their own fields, in any environment. They are refused for an empty key on a claim path that is not blank,
and for nothing else once the sources are read, which the standard file of variables allows if it can be read as UTF-8. -/
theorem load_normal_form (textual : ∀ entry ∈ given, Text.lower entry.1 ∈ fieldNames → IsTextual entry.2) :
    (∀ s, load files environment given = .ok s → s.IsNormal ∧ ∀ files' environment',
        (standardContent files' = .ok none → load files' environment' s.toFields = .ok s) ∧
          load files' environment' ((envFileField, .null) :: s.toFields) = .ok s) ∧
      (∀ sources, Sources.load files environment given [envFileName] = .ok sources → ∀ fault,
        load files environment given = .error fault ↔
          ∃ t, HasEmptyKey sources t ∧ fault = .invalidSettings [emptyKey (Text.trim t)]) ∧
      (given.get? envFileField = none → HasReadableStandard files →
        ∃ sources, Sources.load files environment given [envFileName] = .ok sources) := by
  have made : ∀ sources, Sources.load files environment given [envFileName] = .ok sources →
      load files environment given =
        if [] ∈ Text.split Claim.dot (pathOf sources) then .error (.invalidSettings [emptyKey (pathOf sources)])
        else .ok (settingsOf sources) := by
    intro sources loaded
    apply load_of_sources loaded
    apply are_textual
    rwa [given_of_load loaded]
  refine ⟨?_, ?_, ?_⟩
  · intro s succeeded
    obtain ⟨sources, loaded, _⟩ := bind_eq_ok_iff.mp succeeded
    rw [made sources loaded] at succeeded
    split at succeeded
    · cases succeeded
    · next keys =>
        cases succeeded
        exact ⟨settings_normal keys, load_to_fields (settings_normal keys)⟩
  · intro sources loaded fault
    rw [made sources loaded]
    constructor
    · intro failed
      split at failed
      · next empty =>
          obtain ⟨t, has⟩ := empty_key_iff.mp empty
          rw [has.path_eq] at failed
          cases failed
          exact ⟨t, has, rfl⟩
      · cases failed
    · rintro ⟨t, has, rfl⟩
      rw [if_pos (empty_key_iff.mpr ⟨t, has⟩), has.path_eq]
  · intro unnamed readable
    cases loaded : Sources.load files environment given [envFileName] with
    | ok sources => exact ⟨sources, rfl⟩
    | error fault =>
        obtain ⟨found, standard, decodable⟩ := readable
        rcases (load_standard_eq_error_iff unnamed).mp loaded with ⟨_, locked⟩ | ⟨_, content, there, bad⟩
        · cases standard.symm.trans locked
        · cases standard.symm.trans there
          have good := decodable content rfl
          rw [bad] at good
          cases good

/-- Null that is given goes before the environment, and blanks around the operator's value stay. -/
theorem padded_path_made_again :
    let given : Fields := [(claimPathField, .text (160 :: text "realm_access.roles ")), (operatorValueField, .ofText " admin "),
      (issuerField, .null)]
    let environment : Environment := [(text "ROLE_EXTRACTOR_ISSUER", text "accounts"), (text "Role_Extractor_Audience", text " ")]
    let s : RoleSettings := ⟨text "realm_access.roles", text " admin ", none, none, none⟩
    let broken : Fields := [(claimPathField, .ofText " a..b ")]
    (∀ entry ∈ given, Text.lower entry.1 ∈ fieldNames → IsTextual entry.2) ∧ load Files.empty environment given = .ok s ∧
      s.IsNormal ∧ load Files.empty environment s.toFields = .ok s ∧
      load Files.empty environment broken = .error (.invalidSettings [emptyKey (text "a..b")]) := by
  intro given environment s broken
  have textual : ∀ entry ∈ given, Text.lower entry.1 ∈ fieldNames → IsTextual entry.2 := by
    simp only [given, List.forall_mem_cons]
    exact ⟨fun _ => .text _, fun _ => .text _, fun _ => .null, fun _ member => absurd member List.not_mem_nil⟩
  have loaded : load Files.empty environment given = .ok s := rfl
  obtain ⟨normal, again⟩ := (load_normal_form textual).1 s loaded
  have textualBroken : ∀ entry ∈ broken, Text.lower entry.1 ∈ fieldNames → IsTextual entry.2 := by
    simp only [broken, List.forall_mem_singleton]
    exact fun _ => .text _
  have sources : Sources.load Files.empty environment broken [envFileName] = .ok ⟨broken, environment, []⟩ := rfl
  have refused := ((load_normal_form textualBroken).2.1 _ sources (.invalidSettings [emptyKey (text "a..b")])).mpr
    ⟨text " a..b ", ⟨by decide +kernel, by decide⟩, rfl⟩
  exact ⟨textual, loaded, normal, (again Files.empty environment).1 rfl, refused⟩

end RoleSettings

end BearerRole.Settings
