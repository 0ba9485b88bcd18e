import OAuthRedirect.Proofs.Registration.Data
import OAuthRedirect.Proofs.Registration.Fields

/-!
# Which data describes a registration

Data is accepted when it is documented: an object whose fields are as they have to be, with an
endpoint and a template where the grant has a redirect (`Registration.Documented`). What is not
given is defaulted (`Registration.Describes`), and data that is refused is refused for the fields
that are not as they have to be, in order, or else for the endpoint or the template
(`Registration.RefusedWith`).

A string of an object may have a surrogate without its partner, and then it is no text. Such a
string is as good as any other, except as one of the two ids (`Registration.broken_id_refused`).
-/

namespace OAuthRedirect.Registration

/-! ### Documented data -/

/-- The string that a member is. -/
def stringOf? (members : Members) (name : String) : Option WideString :=
  (members.lookup name).bind Json.string?

/-- Is the member a string that is not empty? -/
def Filled (members : Members) (name : String) : Prop :=
  ∃ w, stringOf? members name = some w ∧ w ≠ default

/-- Is the grant one of the two that begin with a redirect? -/
def Redirects (members : Members) : Prop :=
  stringOf? members "authorization_grant_type" = some "authorization_code" ∨
    stringOf? members "authorization_grant_type" = some "implicit"

/-- The members of a **documented** registration. -/
structure Documented (members : Members) : Prop where
  allows : ∀ field ∈ declared, field.Allows members
  endpoint : Redirects members → Filled members "authorization_uri"
  template : Redirects members →
    members.lookup "redirect_uri_template" = none ∨ Filled members "redirect_uri_template"

/-- Members that give a string or null for a field, or leave it out. -/
def Gives (members : Members) (name : String) (absent value : Option WideString) : Prop :=
  members.lookup name = none ∧ value = absent ∨ members.lookup name = some .null ∧ value = none ∨
    ∃ w, stringOf? members name = some w ∧ value = some w

/-- What members **describe**. A client that names no method sends its secret if it has one. -/
structure Describes (members : Members) (d : Draft) : Prop where
  id : stringOf? members "registration_id" = some ↑d.id.val
  clientId : stringOf? members "client_id" = some ↑d.clientId.val
  clientSecret : Gives members "client_secret" none d.clientSecret
  authentication :
    stringOf? members "client_authentication_method" = some ↑d.authentication.name ∨
      (members.lookup "client_authentication_method" = none ∨
        members.lookup "client_authentication_method" = some .null) ∧
        (Filled members "client_secret" ∧ d.authentication = .secretBasic ∨
          ¬ Filled members "client_secret" ∧ d.authentication = .none)
  grant : stringOf? members "authorization_grant_type" = some ↑d.grant.name
  authorizationUri : Gives members "authorization_uri" none d.authorizationUri
  redirectTemplate : Gives members "redirect_uri_template" (some ↑Template.standard)
    d.redirectTemplate
  scopes : ∀ name, name ∈ d.scopes.names ↔
    ∃ value, members.lookup "scopes" = some value ∧ Scopes.Names name value
  clientName : Gives members "client_name" none d.clientName

/-- The faults that data is **refused with**. -/
inductive RefusedWith : Json → List Fault → Prop
  | notRecord {data : Json} (h : ∀ members, data ≠ .obj members) :
      RefusedWith data [⟨.notRecord "ClientRegistration", []⟩]
  | fields {members : Members} (h : fieldFaults members ≠ []) :
      RefusedWith (.obj members) (fieldFaults members)
  | endpoint {members : Members} (hfields : fieldFaults members = [])
      (hredirects : Redirects members) (h : ¬ Filled members "authorization_uri") :
      RefusedWith (.obj members)
        [⟨.inconsistent "authorization_uri is required for redirect-based grants", []⟩]
  | template {members : Members} (hfields : fieldFaults members = [])
      (hredirects : Redirects members) (hendpoint : Filled members "authorization_uri")
      (hgiven : members.lookup "redirect_uri_template" ≠ none)
      (h : ¬ Filled members "redirect_uri_template") :
      RefusedWith (.obj members)
        [⟨.inconsistent "redirect_uri_template is required for redirect-based grants", []⟩]

/-! ### What the checks read -/

variable {members : Members} {d : Draft}

theorem stringOf?_eq_some_iff {name : String} {w : WideString} : stringOf? members name = some w ↔
    ∃ value, members.lookup name = some value ∧ value.string? = some w :=
  Option.bind_eq_some_iff

theorem gives_of_check {name : String} {absent value : Option WideString}
    (h : Check.optional members name absent Check.stringOrNull = .valid value) :
    Gives members name absent value := by
  obtain habsent | ⟨given, hlookup, hgiven⟩ := Check.optional_eq_valid_iff.mp h
  · exact .inl habsent
  · obtain ⟨rfl, hnone⟩ | ⟨w, hw, rfl⟩ := Check.stringOrNull_eq_valid_iff.mp hgiven
    · exact .inr (.inl ⟨hlookup, hnone⟩)
    · exact .inr (.inr ⟨w, stringOf?_eq_some_iff.mpr ⟨given, hlookup, hw⟩, rfl⟩)

theorem stringOf?_of_check {name : String} {s : { s : String // s ≠ "" }}
    (h : Check.required members name Check.nonEmptyText = .valid s) :
    stringOf? members name = some ↑s.val := by
  simpa only [Check.required_eq_valid_iff, Check.nonEmptyText_eq_valid_iff,
    ← stringOf?_eq_some_iff] using h

/-- A field that may be null holds a string when it is given one, or is left out and defaulted. -/
theorem Gives.ne_empty_iff {name : String} {absent value : Option WideString}
    (h : Gives members name absent value) : value.getD default ≠ default ↔
      members.lookup name = none ∧ absent.getD default ≠ default ∨ Filled members name := by
  obtain ⟨hnone, rfl⟩ | ⟨hnull, rfl⟩ | ⟨w, hw, rfl⟩ := h
  · simp [Filled, stringOf?, hnone]
  · simp [Filled, stringOf?, hnull, Json.string?]
  · obtain ⟨value, hlookup, -⟩ := stringOf?_eq_some_iff.mp hw
    simp [Filled, hw, hlookup]

/-- A string is true when it is not empty. -/
theorem isTruthy_iff {value : Json} {w : WideString} (h : value.string? = some w) :
    value.isTruthy = true ↔ w ≠ default := by
  cases value with
  | str s =>
    obtain rfl := Option.some_inj.mp h
    simp [Json.isTruthy, default]
  | broken codes =>
    obtain rfl := Option.some_inj.mp h
    cases codes with
    | nil => decide
    | cons code rest =>
      have hne : WideString.ofCodes (code :: rest) ≠ default := by
        rw [WideString.ofCodes]
        split <;> simp [default]
      simpa [Json.isTruthy] using hne
  | _ => cases h

/-- The default method goes by the secret. -/
theorem defaultAuthentication_cases (h : Gives members "client_secret" none d.clientSecret) :
    Filled members "client_secret" ∧ defaultAuthentication members = .secretBasic ∨
      ¬ Filled members "client_secret" ∧ defaultAuthentication members = .none := by
  rw [defaultAuthentication, Filled]
  obtain ⟨hnone, -⟩ | ⟨hnull, -⟩ | ⟨w, hw, -⟩ := h
  · simp [stringOf?, hnone]
  · simp [stringOf?, hnull, Json.string?, Json.isTruthy]
  · obtain ⟨value, hlookup, hvalue⟩ := stringOf?_eq_some_iff.mp hw
    simp only [hlookup, isTruthy_iff hvalue, hw, Option.some_inj, exists_eq_left']
    by_cases hempty : w = default
    · exact .inr ⟨not_not.mpr hempty, if_neg (not_not.mpr hempty)⟩
    · exact .inl ⟨hempty, if_pos hempty⟩

theorem checkAuthentication_cases {method : ClientAuthentication}
    (h : checkAuthentication members = .valid method) :
    stringOf? members "client_authentication_method" = some ↑method.name ∨
      (members.lookup "client_authentication_method" = none ∨
        members.lookup "client_authentication_method" = some .null) ∧
        method = defaultAuthentication members := by
  rw [checkAuthentication] at h
  split at h
  · rename_i hnone
    exact .inr ⟨.inl hnone, (Checked.valid.inj h).symm⟩
  · rename_i hnull
    exact .inr ⟨.inr hnull, (Checked.valid.inj h).symm⟩
  · rename_i value _ hgiven
    rw [Checked.under_eq_valid_iff, Check.oneOf_eq_valid_iff] at h
    obtain ⟨name, hvalue, hname⟩ := h
    rw [Pairs.eq_of_lookup_map hname] at hvalue
    exact .inl (stringOf?_eq_some_iff.mpr ⟨value, hgiven, hvalue⟩)

/-- **The fields are read as described.** -/
theorem FieldsRead.describes (h : FieldsRead members d) : Describes members d where
  id := stringOf?_of_check h.id
  clientId := stringOf?_of_check h.clientId
  clientSecret := gives_of_check h.clientSecret
  authentication := by
    obtain hgiven | ⟨hnot, hmethod⟩ := checkAuthentication_cases h.authentication
    · exact .inl hgiven
    · rw [hmethod]
      exact .inr ⟨hnot, defaultAuthentication_cases (gives_of_check h.clientSecret)⟩
  grant := by
    obtain ⟨value, hlookup, hvalue⟩ := Check.required_eq_valid_iff.mp h.grant
    obtain ⟨name, hstring, hname⟩ := Check.oneOf_eq_valid_iff.mp hvalue
    rw [Pairs.eq_of_lookup_map hname] at hstring
    exact stringOf?_eq_some_iff.mpr ⟨value, hlookup, hstring⟩
  authorizationUri := gives_of_check h.authorizationUri
  redirectTemplate := gives_of_check h.redirectTemplate
  scopes := by
    intro name
    obtain ⟨hnone, hempty⟩ | ⟨value, hlookup, hvalue⟩ := Check.optional_eq_valid_iff.mp h.scopes
    · simp [hnone, hempty, Scopes.empty]
    · have hnames := (Scopes.check_eq_valid_iff.mp hvalue).2
      simp [hlookup, hnames]
  clientName := gives_of_check h.clientName

theorem Describes.redirects_iff (h : Describes members d) :
    Redirects members ↔ ∃ grant, d.grant.redirect? = some grant := by
  rw [Redirects, h.grant]
  cases d.grant <;> simp [Grant.name, Grant.redirect?]

theorem Describes.endpoint_iff (h : Describes members d) :
    d.authorizationUri.getD default ≠ default ↔ Filled members "authorization_uri" := by
  simpa using h.authorizationUri.ne_empty_iff

theorem Describes.template_iff (h : Describes members d) :
    d.redirectTemplate.getD default ≠ default ↔
      members.lookup "redirect_uri_template" = none ∨ Filled members "redirect_uri_template" := by
  rw [h.redirectTemplate.ne_empty_iff, and_iff_left (by decide)]

/-! ### Accepted and refused data -/

/-- Fields that are all right are read, and what they make is a registration or lacks something. -/
theorem ofJson_obj_cases :
    (∃ r, ofJson (.obj members) = .valid r ∧ Documented members ∧ Describes members r.draft) ∨
      ∃ faults, ofJson (.obj members) = .invalid faults ∧ ¬ Documented members ∧
        RefusedWith (.obj members) faults := by
  have hreports := reports_checkFields members
  have hallows : fieldFaults members = [] ↔ ∀ field ∈ declared, field.Allows members := by
    simp only [fieldFaults, List.flatMap_eq_nil_iff, Field.faults_eq_nil_iff]
  by_cases hfields : fieldFaults members = []
  · obtain ⟨d, hd⟩ := hreports.eq_nil_iff.mp hfields
    have hdescribes := (checkFields_eq_valid_iff.mp hd).describes
    have hmade : ofJson (.obj members) = ofDraft d := by rw [ofJson, hd, Checked.andThen]
    rw [hmade]
    obtain ⟨r, rfl, hr⟩ | ⟨grant, hgrant, hmissing⟩ := ofDraft_cases d
    · refine .inl ⟨r, hr, ⟨hallows.mp hfields, fun hredirects => ?_, fun hredirects => ?_⟩,
        hdescribes⟩
      · obtain ⟨grant, hgrant⟩ := hdescribes.redirects_iff.mp hredirects
        exact hdescribes.endpoint_iff.mp (r.endpoints grant hgrant).1
      · obtain ⟨grant, hgrant⟩ := hdescribes.redirects_iff.mp hredirects
        exact hdescribes.template_iff.mp (r.endpoints grant hgrant).2
    · have hredirects := hdescribes.redirects_iff.mpr ⟨grant, hgrant⟩
      obtain ⟨huri, hfault⟩ | ⟨huri, htemplate, hfault⟩ := hmissing
      · have hempty : ¬ Filled members "authorization_uri" := fun h =>
          hdescribes.endpoint_iff.mpr h huri
        exact .inr ⟨_, hfault, fun h => hempty (h.endpoint hredirects),
          .endpoint hfields hredirects hempty⟩
      · have hlacks := fun h => hdescribes.template_iff.mpr h htemplate
        exact .inr ⟨_, hfault, fun h => hlacks (h.template hredirects),
          .template hfields hredirects (hdescribes.endpoint_iff.mp huri)
            (fun h => hlacks (.inl h)) fun h => hlacks (.inr h)⟩
  · refine .inr ⟨_, ?_, fun h => hfields (hallows.mpr h.allows), .fields hfields⟩
    rw [ofJson, hreports.eq_invalid hfields]
    rfl

/-- Data is accepted and documented, or refused and not documented. -/
theorem ofJson_cases (data : Json) :
    (∃ members r, data = .obj members ∧ ofJson data = .valid r ∧ Documented members ∧
        Describes members r.draft) ∨
      ∃ faults, ofJson data = .invalid faults ∧ RefusedWith data faults ∧
        ∀ members, data = .obj members → ¬ Documented members := by
  by_cases hobj : ∃ members, data = .obj members
  · obtain ⟨members, rfl⟩ := hobj
    obtain ⟨r, hr, hdocumented, hdescribes⟩ | ⟨faults, hfaults, hnot, hrefused⟩ :=
      ofJson_obj_cases
    · exact .inl ⟨members, r, rfl, hr, hdocumented, hdescribes⟩
    · refine .inr ⟨faults, hfaults, hrefused, fun other hother => ?_⟩
      rwa [← Json.obj.inj hother]
  · have hnone : ∀ members, data ≠ .obj members := fun members h => hobj ⟨members, h⟩
    refine .inr ⟨_, ?_, .notRecord hnone, fun members h => absurd h (hnone members)⟩
    cases data with
    | obj members => exact absurd rfl (hnone members)
    | _ => rfl

/-- **Data that describes a registration.** Data is accepted exactly when it is an object whose
members are documented: ids that are texts and not empty, a secret, endpoint, template and name
that are strings or null or not given, one of the three methods, null or none, one of the five
grants, scopes as a string or a list of strings or not given, and for the two grants with a redirect
an endpoint that is not empty and a template that is not empty or not given. The registration has
what the members describe. Other data is refused with what is wrong with the fields, in the order
they are declared in, or, when nothing is wrong with any of them, with the endpoint or the template
that is lacking. Nothing is wrong with exactly those fields that are as they have to be, and what is
wrong is told at their places. -/
theorem ofJson_documented (data : Json) :
    ((∃ r, ofJson data = .valid r) ↔ ∃ members, data = .obj members ∧ Documented members) ∧
      (∀ r, ofJson data = .valid r → ∃ members, data = .obj members ∧ Describes members r.draft) ∧
      (∀ faults, ofJson data = .invalid faults → RefusedWith data faults) ∧
      ∀ members, data = .obj members → ∀ field ∈ declared,
        (field.faults members = [] ↔ field.Allows members) ∧
          ∀ fault ∈ field.faults members, fault.place.head? = some (.field field.name) := by
  have hfields : ∀ members, data = .obj members → ∀ field ∈ declared,
      (field.faults members = [] ↔ field.Allows members) ∧
        ∀ fault ∈ field.faults members, fault.place.head? = some (.field field.name) := by
    rintro members rfl field -
    exact ⟨Field.faults_eq_nil_iff, fun fault => Field.place_of_mem_faults⟩
  obtain ⟨members, r, hobj, hr, hdocumented, hdescribes⟩ | ⟨faults, hfaults, hrefused, hnot⟩ :=
    ofJson_cases data
  · simp only [hr, Checked.valid.injEq, exists_eq', true_iff, reduceCtorEq, false_imp_iff,
      implies_true, true_and]
    exact ⟨⟨members, hobj, hdocumented⟩, fun _ h => h ▸ ⟨members, hobj, hdescribes⟩, hfields⟩
  · simp only [hfaults, Checked.invalid.injEq, reduceCtorEq, exists_false, false_iff, false_imp_iff,
      implies_true, true_and]
    exact ⟨fun ⟨members, hobj, h⟩ => hnot members hobj h, fun _ h => h ▸ hrefused, hfields⟩

/-- The data of a client with an id, whose name has a surrogate for its only code point. -/
private def heraldData (id : Json) : Members :=
  [("registration_id", id), ("client_id", .str "herald-1"),
    ("authorization_grant_type", .str "password"), ("client_name", .broken [0xD800])]

/-- **An id that is no text is refused.** An id may be written as the escape of a surrogate, and is
a string of the document then, and not empty. Nothing else is wrong with the client: with a text for
its id it is accepted, although its name is the same escape. -/
theorem broken_id_refused :
    (∃ w, stringOf? (heraldData (.broken [0xD800])) "registration_id" = some w ∧ w ≠ default) ∧
      ofJson (.obj (heraldData (.broken [0xD800]))) =
        .invalid [⟨.brokenString, [.field "registration_id"]⟩] ∧
      ∃ r, ofJson (.obj (heraldData (.str "herald"))) = .valid r ∧
        r.clientName = some (.ofCodes [0xD800]) := by
  exact ⟨⟨_, rfl, by decide⟩, rfl, _, rfl, rfl⟩

end OAuthRedirect.Registration
