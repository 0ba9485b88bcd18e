import OAuthRedirect.Proofs.Json.RoundTrip
import OAuthRedirect.Proofs.Registration.Data
import OAuthRedirect.Proofs.Registration.Fields
import OAuthRedirect.Registration.File
import OAuthRedirect.Text.Utf8.RoundTrip

/-!
# Loading a file is all or nothing

A file that holds some data (`Files.Hold`) is loaded when the data is a list and every entry of it
describes a registration, and the registrations are those of the entries, one for each. A single
entry with faults keeps all the others back: what is reported then are the faults of every entry,
under its position (`loadRegistrations_all_or_nothing`).
-/

namespace OAuthRedirect

/-! ### Lists of data -/

namespace Registration

/-- Data that describes no registration is told what is wrong with it. -/
theorem reports_ofJson (data : Json) : (ofJson data).Reports (ofJson data).faults := by
  cases data with
  | obj members =>
    rw [ofJson]
    have hreports := reports_checkFields members
    by_cases hfields : fieldFaults members = []
    · obtain ⟨d, hd⟩ := hreports.eq_nil_iff.mp hfields
      rw [hd, Checked.andThen]
      obtain ⟨r, -, hr⟩ | ⟨-, -, ⟨-, hfault⟩ | ⟨-, -, hfault⟩⟩ := ofDraft_cases d
      · rw [hr]
        exact .valid r
      · rw [hfault]
        exact Checked.reports_fault _
      · rw [hfault]
        exact Checked.reports_fault _
    · rw [hreports.eq_invalid hfields]
      exact .invalid hfields
  | _ => exact Checked.reports_fault _

theorem listOfJson_arr_eq_valid_iff {items : List Json}
    {registrations : List (Registration WideString)} :
    listOfJson (.arr items) = .valid registrations ↔
      List.Forall₂ (fun item r => ofJson item = .valid r) items registrations :=
  Checked.items_eq_valid_iff

theorem reports_listOfJson_arr (items : List Json) : (listOfJson (.arr items)).Reports
    (Checked.entryFaults (fun item => (ofJson item).faults) 0 items) :=
  Checked.reports_items reports_ofJson 0 items

/-- A list of data is accepted when each of its entries is. -/
theorem exists_listOfJson_arr_iff (items : List Json) :
    (∃ registrations, listOfJson (.arr items) = .valid registrations) ↔
      ∀ item ∈ items, ∃ r, ofJson item = .valid r := by
  simp only [listOfJson_arr_eq_valid_iff, Check.exists_forall₂_iff]

/-- A list of data is refused, when one of its entries is, with the faults of all of them. -/
theorem listOfJson_arr_eq_invalid {items : List Json}
    (h : ∃ item ∈ items, ∀ r, ofJson item ≠ .valid r) : listOfJson (.arr items) =
      .invalid (Checked.entryFaults (fun item => (ofJson item).faults) 0 items) := by
  obtain ⟨item, hitem, hnot⟩ := h
  refine (reports_listOfJson_arr items).eq_invalid fun hnil => ?_
  have hvalid := (reports_listOfJson_arr items).eq_nil_iff.mp hnil
  obtain ⟨r, hr⟩ := (exists_listOfJson_arr_iff items).mp hvalid item hitem
  exact hnot r hr

theorem listOfJson_eq_notList {data : Json} (h : ∀ items, data ≠ .arr items) :
    listOfJson data = .invalid [⟨.notList, []⟩] := by
  cases data with
  | arr items => exact absurd rfl (h items)
  | _ => rfl

end Registration

/-! ### Files -/

/-- The file at a path **holds** some data: it is UTF-8, and its text, with line ends of one kind,
is the JSON of the data. -/
def Files.Hold (files : Files) (path : String) (data : Json) : Prop :=
  ∃ bytes cs, files path = some bytes ∧ Text.Utf8.decode bytes = .ok cs ∧
    Json.read (String.ofList (unifyLineEnds cs)) = .ok data

variable {files : Files} {path : Option String} {file : String} {data : Json}

/-- Without a carriage return, all line ends are of one kind. -/
theorem unifyLineEnds_of_not_mem {cs : List Char} (h : '\r' ∉ cs) : unifyLineEnds cs = cs := by
  induction cs with
  | nil => rfl
  | cons c rest ih =>
    have hc : c ≠ '\r' := fun heq => h (heq ▸ List.mem_cons_self)
    rw [unifyLineEnds, ih fun hmem => h (List.mem_cons_of_mem c hmem)]
    · exact fun _ heq => absurd heq hc
    · exact hc

/-- A file holds the objects that are written into it. -/
theorem Files.Hold.of_rows {list : List (List (String × String))}
    (hbytes : files file = some (Text.Utf8.encode (Json.arr (Json.rows list)).write.toList))
    (hne : list ≠ []) (hrows : Json.AreRows list) : files.Hold file (.arr (Json.rows list)) := by
  refine ⟨_, _, hbytes, Text.Utf8.decode_encode _, ?_⟩
  have hreturn : '\r' ∉ (Json.arr (Json.rows list)).write.toList := fun h =>
    absurd (Json.le_of_mem_write_rows h) (by decide)
  rw [unifyLineEnds_of_not_mem hreturn, String.ofList_toList, Json.read_write_rows hne hrows]

theorem loaded_eq_ok_iff {x : Checked (List (Registration WideString))}
    {registrations : List (Registration WideString)} :
    x.toExcept.mapError LoadError.invalid = .ok registrations ↔ x = .valid registrations := by
  cases x <;> simp [Checked.toExcept, Except.mapError]

/-- The data of a file is checked as it stands in the file. -/
theorem loadRegistrations_of_hold (env : Environment) (settings : Settings)
    (hpath : firstNonEmpty path (settings.registrationsFile.getD "") = file) (hne : file ≠ "")
    (hdata : files.Hold file data) : loadRegistrations env settings files path =
      (Registration.listOfJson data).toExcept.mapError .invalid := by
  obtain ⟨bytes, cs, hbytes, hcs, hread⟩ := hdata
  unfold loadRegistrations
  split
  · rename_i hempty
    exact absurd (hpath.symm.trans hempty) hne
  · rw [hpath, hbytes]
    change registrationsOfBytes bytes = _
    rw [registrationsOfBytes, hcs]
    change registrationsOfText _ = _
    rw [registrationsOfText, hread]
    rfl

/-- **A file is loaded as a whole or not at all.** For a file that holds data, registrations come
back exactly when the data is a list of which every entry describes a registration; they are as many
and in the same order, each the one that the entry at its position describes. Data that is no list
is reported as that and nothing else. A list with entries that describe none is refused with the
faults of all its entries, one after another, each with the position of the entry put in front of
its place; an entry that does describe a registration has none. -/
theorem loadRegistrations_all_or_nothing (env : Environment) (settings : Settings)
    (hpath : firstNonEmpty path (settings.registrationsFile.getD "") = file) (hne : file ≠ "")
    (hdata : files.Hold file data) :
    ((∃ registrations, loadRegistrations env settings files path = .ok registrations) ↔
      ∃ items, data = .arr items ∧ ∀ item ∈ items, ∃ r, Registration.ofJson item = .valid r) ∧
    (∀ registrations, loadRegistrations env settings files path = .ok registrations →
      ∃ items, data = .arr items ∧
        List.Forall₂ (fun item r => Registration.ofJson item = .valid r) items registrations) ∧
    ((∀ items, data ≠ .arr items) →
      loadRegistrations env settings files path = .error (.invalid [⟨.notList, []⟩])) ∧
    (∀ items, data = .arr items →
      (∃ item ∈ items, ∀ r, Registration.ofJson item ≠ .valid r) →
      loadRegistrations env settings files path = .error (.invalid
        (items.zipIdx.flatMap fun entry =>
          (Registration.ofJson entry.1).faults.map (·.under (.index entry.2))))) ∧
    ∀ item, (Registration.ofJson item).faults = [] ↔ ∃ r, Registration.ofJson item = .valid r := by
  rw [loadRegistrations_of_hold env settings hpath hne hdata]
  have hfaults (item : Json) :
      (Registration.ofJson item).faults = [] ↔ ∃ r, Registration.ofJson item = .valid r :=
    (Registration.reports_ofJson item).eq_nil_iff
  by_cases harr : ∃ items, data = .arr items
  · obtain ⟨items, rfl⟩ := harr
    refine ⟨?_, fun registrations h => ?_, fun h => absurd rfl (h items), ?_, hfaults⟩
    · simp only [loaded_eq_ok_iff, Registration.exists_listOfJson_arr_iff, Json.arr.injEq,
        exists_eq_left']
    · exact ⟨items, rfl, Registration.listOfJson_arr_eq_valid_iff.mp (loaded_eq_ok_iff.mp h)⟩
    · rintro _ ⟨rfl⟩ hrefused
      rw [Registration.listOfJson_arr_eq_invalid hrefused]
      rfl
  · have hnone : ∀ items, data ≠ .arr items := fun items h => harr ⟨items, h⟩
    rw [Registration.listOfJson_eq_notList hnone]
    refine ⟨⟨?_, ?_⟩, fun registrations h => ?_, fun _ => rfl,
      fun items h => absurd h (hnone items), hfaults⟩
    · rintro ⟨registrations, h⟩
      cases h
    · rintro ⟨items, h, -⟩
      exact absurd h (hnone items)
    · cases h

/-- The members of a client with the implicit grant. -/
private def atlasRow : List (String × String) :=
  [("registration_id", "atlas"), ("client_id", "atlas-1"),
    ("authorization_grant_type", "implicit"), ("authorization_uri", "https://provider.example/a")]

/-- The members of a client without a redirect. -/
private def archiveRow : List (String × String) :=
  [("registration_id", "archive"), ("client_id", "archive-1"),
    ("authorization_grant_type", "password")]

/-- The members of a client that has no id and a grant that nobody knows. -/
private def draftRow : List (String × String) :=
  [("registration_id", "draft"), ("authorization_grant_type", "magic")]

/-- Two files with the atlas client: with the archive behind it, and with a draft between them. -/
private def directory : Files := fun path =>
  let bytes list := Text.Utf8.encode (Json.arr (Json.rows list)).write.toList
  if path = "clients.json" then some (bytes [atlasRow, archiveRow])
  else if path = "mixed.json" then some (bytes [atlasRow, draftRow, archiveRow])
  else none

private def directorySettings : Settings where
  base := "/oauth2/authorization"
  host := "localhost"
  port := 8080
  registrationsFile := some "clients.json"
  authorizationServer := "http://localhost:8081"
  frameworkPages _ := none

private theorem hold_clients :
    directory.Hold "clients.json" (.arr (Json.rows [atlasRow, archiveRow])) :=
  .of_rows (by rfl) (by decide) (by unfold Json.AreRows; decide)

private theorem hold_mixed :
    directory.Hold "mixed.json" (.arr (Json.rows [atlasRow, draftRow, archiveRow])) :=
  .of_rows (by rfl) (by decide) (by unfold Json.AreRows; decide)

/-- The configured file is loaded, in its order. The other one is not, although the first and the
last of its clients are as good as before: both faults of the draft are reported at its position. -/
theorem loadRegistrations_all_or_nothing_directory :
    (∃ registrations, loadRegistrations [] directorySettings directory none = .ok registrations ∧
        registrations.map (·.id) = ["atlas", "archive"]) ∧
      loadRegistrations [] directorySettings directory (some "mixed.json") = .error (.invalid
        [⟨.missing, [.index 1, .field "client_id"]⟩,
          ⟨.notOneOf (Grant.named.map Prod.fst),
            [.index 1, .field "authorization_grant_type"]⟩]) := by
  obtain ⟨atlas, hatlas, hatlasId⟩ :
      ∃ r, Registration.ofJson (.obj (Json.texts atlasRow)) = .valid r ∧ r.id = "atlas" :=
    ⟨_, rfl, rfl⟩
  obtain ⟨archive, harchive, harchiveId⟩ :
      ∃ r, Registration.ofJson (.obj (Json.texts archiveRow)) = .valid r ∧ r.id = "archive" :=
    ⟨_, rfl, rfl⟩
  have hdraft : ∀ r, Registration.ofJson (.obj (Json.texts draftRow)) ≠ .valid r := by
    intro r h
    cases h
  obtain ⟨hloads, hregistrations, -⟩ :=
    loadRegistrations_all_or_nothing [] directorySettings
      (show firstNonEmpty none "clients.json" = "clients.json" from rfl) (by decide) hold_clients
  obtain ⟨-, -, -, hrefused, -⟩ :=
    loadRegistrations_all_or_nothing [] directorySettings
      (show firstNonEmpty (some "mixed.json") "clients.json" = "mixed.json" from rfl) (by decide)
      hold_mixed
  constructor
  · have hitems : ∀ item ∈ Json.rows [atlasRow, archiveRow],
        ∃ r, Registration.ofJson item = .valid r :=
      List.forall_mem_cons.mpr ⟨⟨atlas, hatlas⟩, List.forall_mem_singleton.mpr ⟨archive, harchive⟩⟩
    obtain ⟨registrations, hok⟩ := hloads.mpr ⟨_, rfl, hitems⟩
    obtain ⟨_, ⟨rfl⟩, hread⟩ := hregistrations registrations hok
    cases hread with
    | cons hfirst hrest =>
      cases hrest with
      | cons hsecond hnil =>
        cases hnil
        obtain rfl := Checked.valid.inj (hatlas.symm.trans hfirst)
        obtain rfl := Checked.valid.inj (harchive.symm.trans hsecond)
        exact ⟨_, hok, by simp [hatlasId, harchiveId]⟩
  · refine (hrefused _ rfl ⟨_, .tail _ (.head _), hdraft⟩).trans ?_
    rfl

end OAuthRedirect
