import OAuthRedirect.Proofs.Pairs
import OAuthRedirect.Proofs.Scopes
import OAuthRedirect.Registration.Basic

/-!
# Registrations as data

A registration, written as the members of an object, passes every check of its fields, and the
check that a grant with a redirect has its endpoint and its template. It is read as it was:
nothing is defaulted, split or dropped a second time. Neither the order of the members nor the
order of the scopes matters, and a scope may be listed more than once
(`Registration.ofJson_rewritten`).
-/

namespace OAuthRedirect.Registration

/-! ### Checks of the fields -/

/-- The checks of the fields, each with what it reads. -/
structure FieldsRead (members : Members) (d : Draft) : Prop where
  id : Check.required members "registration_id" Check.nonEmptyText = .valid d.id
  clientId : Check.required members "client_id" Check.nonEmptyText = .valid d.clientId
  clientSecret : Check.optional members "client_secret" none Check.stringOrNull =
    .valid d.clientSecret
  authentication : checkAuthentication members = .valid d.authentication
  grant : Check.required members "authorization_grant_type" (Check.oneOf Grant.named) =
    .valid d.grant
  authorizationUri : Check.optional members "authorization_uri" none Check.stringOrNull =
    .valid d.authorizationUri
  redirectTemplate : Check.optional members "redirect_uri_template" (some ↑Template.standard)
    Check.stringOrNull = .valid d.redirectTemplate
  scopes : Check.optional members "scopes" Scopes.empty Scopes.check = .valid d.scopes
  clientName : Check.optional members "client_name" none Check.stringOrNull = .valid d.clientName

theorem checkFields_eq_valid_iff {members : Members} {d : Draft} :
    checkFields members = .valid d ↔ FieldsRead members d := by
  constructor
  · intro h
    simp only [checkFields, Checked.ap_eq_valid_iff, Checked.map_eq_valid_iff] at h
    -- a bracket for each of the nine fields, the last one outside
    obtain ⟨_, _, ⟨_, _, ⟨_, _, ⟨_, _, ⟨_, _, ⟨_, _, ⟨_, _, ⟨_, _, ⟨_, hid, rfl⟩, hclient, rfl⟩,
      hsecret, rfl⟩, hmethod, rfl⟩, hgrant, rfl⟩, huri, rfl⟩, htemplate, rfl⟩, hscopes, rfl⟩, hname,
      rfl⟩ := h
    exact ⟨hid, hclient, hsecret, hmethod, hgrant, huri, htemplate, hscopes, hname⟩
  · intro h
    rw [checkFields, h.id, h.clientId, h.clientSecret, h.authentication, h.grant,
      h.authorizationUri, h.redirectTemplate, h.scopes, h.clientName]
    rfl

/-! ### Fields that go together -/

/-- The fields of a registration one by one. -/
def draft (r : Registration WideString) : Draft where
  id := ⟨r.id, r.id_ne_empty⟩
  clientId := ⟨r.clientId, r.clientId_ne_empty⟩
  clientSecret := r.clientSecret
  authentication := r.authentication
  grant := r.grant
  authorizationUri := r.authorizationUri
  redirectTemplate := r.redirectTemplate
  scopes := r.scopes
  clientName := r.clientName

theorem draft_injective : Function.Injective draft := by
  intro r other h
  cases r
  cases other
  simp only [draft, Draft.mk.injEq, Subtype.mk.injEq] at h
  simp only [h]

/-- Fields that are valid one by one make a registration, unless their grant has a redirect and they
lack its endpoint or, with an endpoint, its template. -/
theorem ofDraft_cases (d : Draft) :
    (∃ r : Registration WideString, r.draft = d ∧ ofDraft d = .valid r) ∨
      ∃ grant, d.grant.redirect? = some grant ∧
        (d.authorizationUri.getD default = default ∧ ofDraft d = .fault
            (.inconsistent "authorization_uri is required for redirect-based grants") ∨
          d.authorizationUri.getD default ≠ default ∧ d.redirectTemplate.getD default = default ∧
            ofDraft d = .fault
              (.inconsistent "redirect_uri_template is required for redirect-based grants")) := by
  unfold ofDraft
  split
  · exact .inl ⟨_, rfl, rfl⟩
  · rename_i grant hgrant
    dsimp only
    split
    · rename_i huri
      exact .inr ⟨grant, hgrant, .inl ⟨huri, rfl⟩⟩
    · rename_i huri
      split
      · rename_i htemplate
        exact .inr ⟨grant, hgrant, .inr ⟨huri, htemplate, rfl⟩⟩
      · exact .inl ⟨_, rfl, rfl⟩

/-- The registration that some fields make is the one with these fields. -/
theorem ofDraft_eq_valid_iff {d : Draft} {r : Registration WideString} :
    ofDraft d = .valid r ↔ r.draft = d := by
  obtain ⟨made, rfl, hmade⟩ | ⟨grant, hgrant, hmissing⟩ := ofDraft_cases d
  · rw [hmade, Checked.valid.injEq, draft_injective.eq_iff, eq_comm]
  · constructor
    · intro h
      obtain ⟨-, hfault⟩ | ⟨-, -, hfault⟩ := hmissing
      all_goals
        rw [h] at hfault
        cases hfault
    · rintro rfl
      obtain ⟨huri, htemplate⟩ := r.endpoints grant hgrant
      obtain ⟨hempty, -⟩ | ⟨-, hempty, -⟩ := hmissing
      · exact absurd hempty huri
      · exact absurd hempty htemplate

/-- The fields of an accepted registration are read from its data. -/
theorem fieldsRead_of_ofJson {members : Members} {r : Registration WideString}
    (h : ofJson (.obj members) = .valid r) : FieldsRead members r.draft := by
  obtain ⟨d, hd, hr⟩ := Checked.andThen_eq_valid_iff.mp h
  obtain rfl := ofDraft_eq_valid_iff.mp hr
  exact checkFields_eq_valid_iff.mp hd

/-! ### Writing and reading -/

/-- A method that is named is that method. -/
theorem checkAuthentication_of_lookup {members : Members} {method : ClientAuthentication}
    (hlookup : members.lookup "client_authentication_method" = some (.str method.name)) :
    checkAuthentication members = .valid method := by
  rw [checkAuthentication, hlookup]
  cases method <;> rfl

/-- The fields of a registration, with its scopes listed in some way. -/
def fieldsListing (r : Registration WideString) (names : List WideString) : Members :=
  r.fields.put "scopes" (.arr (names.map WideString.toJson))

theorem nodup_fieldsListing (r : Registration WideString) (names : List WideString) :
    ((r.fieldsListing names).map Prod.fst).Nodup := by
  change ["registration_id", "client_id", "client_secret", "client_authentication_method",
    "authorization_grant_type", "authorization_uri", "redirect_uri_template", "scopes",
    "client_name"].Nodup
  decide

/-- The fields of a registration are valid one by one. -/
theorem checkFields_of_perm {r : Registration WideString} {names : List WideString}
    {members : Members} (hnames : ∀ name, name ∈ names ↔ name ∈ r.scopes.names)
    (hmembers : members.Perm (r.fieldsListing names)) : checkFields members = .valid r.draft := by
  have hlookup := Pairs.lookup_of_perm hmembers (r.nodup_fieldsListing names)
  have hgrant : Check.oneOf Grant.named (.str r.grant.name) = .valid r.grant := by
    cases r.grant <;> rfl
  have hscopes : Scopes.check (.arr (names.map WideString.toJson)) = .valid r.scopes := by
    rw [Scopes.check_of_string?_eq_none rfl, Scopes.checkList_map_toJson,
      Scopes.ofList_eq_iff.mpr hnames]
  exact checkFields_eq_valid_iff.mpr
    { id := Check.required_of_lookup (hlookup _) (Check.nonEmptyText_str r.id_ne_empty)
      clientId := Check.required_of_lookup (hlookup _) (Check.nonEmptyText_str r.clientId_ne_empty)
      clientSecret := Check.optional_of_lookup (hlookup _) (Check.stringOrNull_orNull _)
      authentication := checkAuthentication_of_lookup (hlookup _)
      grant := Check.required_of_lookup (hlookup _) hgrant
      authorizationUri := Check.optional_of_lookup (hlookup _) (Check.stringOrNull_orNull _)
      redirectTemplate := Check.optional_of_lookup (hlookup _) (Check.stringOrNull_orNull _)
      scopes := Check.optional_of_lookup (hlookup _) hscopes
      clientName := Check.optional_of_lookup (hlookup _) (Check.stringOrNull_orNull _) }

/-- **A registration passes its own checks**, and is read as it was. -/
theorem ofJson_of_perm {r : Registration WideString} {names : List WideString} {members : Members}
    (hnames : ∀ name, name ∈ names ↔ name ∈ r.scopes.names)
    (hmembers : members.Perm (r.fieldsListing names)) : ofJson (.obj members) = .valid r := by
  rw [ofJson, checkFields_of_perm hnames hmembers]
  exact ofDraft_eq_valid_iff.mpr rfl

/-- **Rewriting a registration changes nothing.** Let some data be accepted, and let an object have
the fields of the registration that it describes, in any order, with the scopes in a list that has
no others and may repeat them. Then the object is accepted as well and describes an equal
registration, of a client that is as public as before and uses proof keys if it did before. -/
theorem ofJson_rewritten {data : Json} {r : Registration WideString}
    (haccepted : ofJson data = .valid r) {names : List WideString}
    (hnames : ∀ name, name ∈ names ↔ name ∈ r.scopes.names)
    {members : Members} (hmembers : members.Perm (r.fieldsListing names)) :
    ofJson (.obj members) = ofJson data ∧ ∃ again, ofJson (.obj members) = .valid again ∧
      again = r ∧ again.isPublic = r.isPublic ∧ again.usesPkce = r.usesPkce := by
  have hagain := ofJson_of_perm hnames hmembers
  exact ⟨hagain.trans haccepted.symm, r, hagain, rfl, rfl, rfl⟩

/-- A client without a redirect, an empty secret and no template, with its scopes in one string and
a name that is no text. -/
private def archiveData : Members :=
  [("registration_id", .str "archive"), ("client_id", .str "archive-1"), ("client_secret", .str ""),
    ("authorization_grant_type", .str "client_credentials"), ("redirect_uri_template", .null),
    ("scopes", .str "read, write read"), ("client_name", .broken [0x41, 0xD800])]

private def archive : Registration WideString where
  id := "archive"
  clientId := "archive-1"
  clientSecret := some ""
  authentication := .none
  grant := .clientCredentials
  authorizationUri := none
  redirectTemplate := none
  scopes := .ofList ["read", "write"]
  clientName := some (.ofCodes [0x41, 0xD800])
  id_ne_empty := by decide
  clientId_ne_empty := by decide
  endpoints _ h := by cases h

/-- The defaulted method, the empty secret and the template that is null stay as they are, with the
fields in reverse and a scope listed twice. -/
theorem ofJson_rewritten_archive :
    ofJson (.obj archiveData) = .valid archive ∧
      ofJson (.obj (archive.fieldsListing ["write", "read", "write"]).reverse) =
        .valid archive := by
  have haccepted : ofJson (.obj archiveData) = .valid archive := by rfl
  have hnames (name : WideString) :
      name ∈ (["write", "read", "write"] : List WideString) ↔ name ∈ archive.scopes.names := by
    rw [archive, Scopes.mem_ofList]
    simp only [List.mem_cons, List.not_mem_nil, or_false]
    tauto
  obtain ⟨-, again, hagain, rfl, -⟩ := ofJson_rewritten haccepted hnames (List.reverse_perm _)
  exact ⟨haccepted, hagain⟩

end OAuthRedirect.Registration
