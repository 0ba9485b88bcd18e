import OAuthRedirect.Proofs.Scopes
import OAuthRedirect.Registration.Basic

/-!
# The fields of a registration

The nine fields of a registration in the order they are declared in, each with the form that its
value has to have (`Registration.declared`). What is wrong with the value of a field is told by its
form, and it is told at the place of the field; nothing is wrong exactly when the field is as it
has to be (`Field.faults_eq_nil_iff`). The check of the fields reports what is wrong with each of
them, one after another (`Registration.reports_checkFields`).
-/

namespace OAuthRedirect

/-! ### Forms of values -/

/-- What a value has to be. -/
inductive Form where
  /-- A text that is not empty. -/
  | filledText
  | stringOrNull
  | oneOf (names : List String)
  | oneOfOrNull (names : List String)
  /-- A string, or a list of strings. -/
  | strings

/-- The values of a form. -/
def Form.Holds : Form → Json → Prop
  | filledText, value => ∃ s : String, value.string? = some ↑s ∧ s ≠ ""
  | stringOrNull, value => value = .null ∨ ∃ w, value.string? = some w
  | oneOf names, value => ∃ s ∈ names, value.string? = some ↑s
  | oneOfOrNull names, value => value = .null ∨ ∃ s ∈ names, value.string? = some ↑s
  | strings, value => (∃ w, value.string? = some w) ∨
      ∃ items, value = .arr items ∧ ∀ item ∈ items, ∃ w, item.string? = some w

/-- What is wrong with a value that has to be a string. -/
def stringFaults (value : Json) : List Fault :=
  match value.string? with
  | some _ => []
  | none => [⟨.notString, []⟩]

/-- What is wrong with a value that has to be a text and not empty. -/
def filledFaults (value : Json) : List Fault :=
  match value.string? with
  | some (.text s) => if s = "" then [⟨.emptyString, []⟩] else []
  | some (.broken _ _) => [⟨.brokenString, []⟩]
  | none => [⟨.notString, []⟩]

/-- What is wrong with a value that has to be one of some names. -/
def choiceFaults (names : List String) (value : Json) : List Fault :=
  match value.string? with
  | some (.text s) => if s ∈ names then [] else [⟨.notOneOf names, []⟩]
  | some (.broken _ _) => [⟨.brokenString, []⟩]
  | none => [⟨.notOneOf names, []⟩]

/-- What is wrong with a value that has to be of a form. -/
def Form.faults : Form → Json → List Fault
  | filledText, value => filledFaults value
  | stringOrNull, .null => []
  | stringOrNull, value => stringFaults value
  | oneOf names, value => choiceFaults names value
  | oneOfOrNull _, .null => []
  | oneOfOrNull names, value => choiceFaults names value
  | strings, .arr items => Checked.entryFaults stringFaults 0 items
  | strings, value => if value.string?.isSome then [] else [⟨.notSet, []⟩]

/-! ### Checks of forms -/

theorem reports_string (value : Json) : (Check.string value).Reports (stringFaults value) := by
  rw [Check.string, stringFaults]
  cases value.string? with
  | some w => exact .valid w
  | none => exact Checked.reports_fault _

theorem reports_filledText (value : Json) :
    (Check.nonEmptyText value).Reports (Form.filledText.faults value) := by
  rw [Check.nonEmptyText, Form.faults, filledFaults]
  rcases value.string? with _ | (s | _)
  · exact Checked.reports_fault _
  · dsimp only
    split
    · exact Checked.reports_fault _
    · exact .valid _
  · exact Checked.reports_fault _

theorem reports_stringOrNull (value : Json) :
    (Check.stringOrNull value).Reports (Form.stringOrNull.faults value) := by
  cases value with
  | null => exact .valid none
  | _ => exact (reports_string _).map some

theorem reports_oneOf {α : Type} (named : List (String × α)) (value : Json) :
    (Check.oneOf named value).Reports ((Form.oneOf (named.map Prod.fst)).faults value) := by
  rw [Form.faults, choiceFaults, Check.oneOf]
  rcases value.string? with _ | (s | _)
  · exact Checked.reports_fault _
  · dsimp only
    cases hfound : named.lookup s with
    | none =>
      have hmem : s ∉ named.map Prod.fst := fun hmem => by
        obtain ⟨pair, hpair, rfl⟩ := List.mem_map.mp hmem
        simpa using List.lookup_eq_none_iff.mp hfound pair hpair
      rw [if_neg hmem]
      exact Checked.reports_fault _
    | some a =>
      obtain ⟨before, after, rfl, -⟩ := List.lookup_eq_some_iff.mp hfound
      rw [if_pos (by simp)]
      exact .valid a
  · exact Checked.reports_fault _

theorem reports_strings (value : Json) :
    (Scopes.check value).Reports (Form.strings.faults value) := by
  cases value with
  | str s => exact .valid _
  | broken codes => exact .valid _
  | arr items => exact (Checked.reports_items reports_string 0 items).map _
  | _ => exact Checked.reports_fault _

/-- Nothing is wrong with a value exactly when it has the form. -/
theorem Form.faults_eq_nil_iff (form : Form) {value : Json} :
    form.faults value = [] ↔ form.Holds value := by
  have hstring (value : Json) : stringFaults value = [] ↔ ∃ w, value.string? = some w := by
    simp only [(reports_string value).eq_nil_iff, Check.string_eq_valid_iff]
  have hchoice (names : List String) (value : Json) :
      choiceFaults names value = [] ↔ ∃ s ∈ names, value.string? = some ↑s := by
    rw [choiceFaults]
    split <;> simp [*]
  cases form with
  | filledText =>
    simp only [(reports_filledText value).eq_nil_iff, Check.nonEmptyText_eq_valid_iff, Holds,
      Subtype.exists, exists_prop, and_comm]
  | stringOrNull =>
    cases value <;> simp [faults, Holds, hstring]
  | oneOf names => exact hchoice names value
  | oneOfOrNull names =>
    cases value <;> simp [faults, Holds, hchoice]
  | strings =>
    rw [(reports_strings value).eq_nil_iff, Holds]
    simp only [Scopes.check_eq_valid_iff]
    constructor
    · rintro ⟨s, h, -⟩
      exact h
    · intro h
      obtain ⟨s, hs⟩ := Scopes.exists_check_of_strings h
      exact ⟨s, Scopes.check_eq_valid_iff.mp hs⟩

/-! ### Fields -/

/-- A field of a record. -/
structure Field where
  name : String
  form : Form
  required : Bool

/-- Is the field as it has to be? -/
def Field.Allows (field : Field) (members : Members) : Prop :=
  match members.lookup field.name with
  | none => field.required = false
  | some value => field.form.Holds value

/-- What is wrong with the field. -/
def Field.faults (field : Field) (members : Members) : List Fault :=
  match members.lookup field.name with
  | none => if field.required then [⟨.missing, [.field field.name]⟩] else []
  | some value => (field.form.faults value).map (·.under (.field field.name))

namespace Field

variable {α : Type} {field : Field} {members : Members} {check : Json → Checked α}

/-- **Nothing is wrong with a field** exactly when it is as it has to be. -/
theorem faults_eq_nil_iff : field.faults members = [] ↔ field.Allows members := by
  rw [faults, Allows]
  split
  · simp
  · rw [List.map_eq_nil_iff, Form.faults_eq_nil_iff]

/-- What is wrong with a field is told at its place. -/
theorem place_of_mem_faults {fault : Fault} (h : fault ∈ field.faults members) :
    fault.place.head? = some (.field field.name) := by
  rw [faults] at h
  split at h
  · split at h
    · obtain rfl := List.mem_singleton.mp h
      rfl
    · cases h
  · obtain ⟨inner, -, rfl⟩ := List.mem_map.mp h
    rfl

theorem reports_required (members : Members) (name : String) {form : Form}
    (hcheck : ∀ value, (check value).Reports (form.faults value)) :
    (Check.required members name check).Reports (faults ⟨name, form, true⟩ members) := by
  rw [Check.required, faults]
  cases members.lookup name with
  | none => exact .invalid (List.cons_ne_nil _ _)
  | some value => exact (hcheck value).under _

theorem reports_optional (members : Members) (name : String) (absent : α) {form : Form}
    (hcheck : ∀ value, (check value).Reports (form.faults value)) :
    (Check.optional members name absent check).Reports (faults ⟨name, form, false⟩ members) := by
  rw [Check.optional, faults]
  cases members.lookup name with
  | none => exact .valid absent
  | some value => exact (hcheck value).under _

end Field

/-! ### The fields of a registration -/

namespace Registration

/-- The fields of a registration, in the order they are declared in. -/
def declared : List Field :=
  [⟨"registration_id", .filledText, true⟩,
    ⟨"client_id", .filledText, true⟩,
    ⟨"client_secret", .stringOrNull, false⟩,
    ⟨"client_authentication_method",
      .oneOfOrNull ["client_secret_basic", "client_secret_post", "none"], false⟩,
    ⟨"authorization_grant_type", .oneOf ["authorization_code", "implicit", "refresh_token",
      "client_credentials", "password"], true⟩,
    ⟨"authorization_uri", .stringOrNull, false⟩,
    ⟨"redirect_uri_template", .stringOrNull, false⟩,
    ⟨"scopes", .strings, false⟩,
    ⟨"client_name", .stringOrNull, false⟩]

/-- What is wrong with the fields one by one, in the order of the fields. -/
def fieldFaults (members : Members) : List Fault :=
  declared.flatMap (·.faults members)

theorem reports_checkAuthentication (members : Members) :
    (checkAuthentication members).Reports (Field.faults ⟨"client_authentication_method",
      .oneOfOrNull ["client_secret_basic", "client_secret_post", "none"], false⟩ members) := by
  rw [checkAuthentication, Field.faults]
  cases members.lookup "client_authentication_method" with
  | none => exact .valid _
  | some value =>
    cases value with
    | null => exact .valid _
    | _ => exact (reports_oneOf ClientAuthentication.named _).under _

/-- **The check of the fields** reports what is wrong with each of them, in order. -/
theorem reports_checkFields (members : Members) :
    (checkFields members).Reports (fieldFaults members) := by
  have hid := Field.reports_required members "registration_id" reports_filledText
  have hclient := Field.reports_required members "client_id" reports_filledText
  have hsecret := Field.reports_optional members "client_secret" none reports_stringOrNull
  have hmethod := reports_checkAuthentication members
  have hgrant :
      (Check.required members "authorization_grant_type" (Check.oneOf Grant.named)).Reports
        (Field.faults ⟨"authorization_grant_type", .oneOf ["authorization_code", "implicit",
          "refresh_token", "client_credentials", "password"], true⟩ members) :=
    Field.reports_required members _ (reports_oneOf Grant.named)
  have huri := Field.reports_optional members "authorization_uri" none reports_stringOrNull
  have htemplate := Field.reports_optional members "redirect_uri_template"
    (some ↑Template.standard) reports_stringOrNull
  have hscopes := Field.reports_optional members "scopes" Scopes.empty reports_strings
  have hname := Field.reports_optional members "client_name" none reports_stringOrNull
  rw [fieldFaults, declared, checkFields]
  simpa only [List.flatMap_cons, List.flatMap_nil, List.append_nil, List.append_assoc] using
    ((((((((hid.map Draft.mk).ap hclient).ap hsecret).ap hmethod).ap hgrant).ap huri).ap
      htemplate).ap hscopes).ap hname

end Registration

end OAuthRedirect
