import OAuthRedirect.Log.Event
import OAuthRedirect.Proofs.WideString

/-!
# Lines of a log record

The block of an event is meant to have a line for the time and the parties, one for the kind, one
for each entry of the data and one that ends it. It has that many lines exactly when the parties,
the kind and every name and value that is shown are on one line (`Event.lineCount_render_iff`): a
string is shown as it is, and a line feed in it begins a new line of the block.
-/

namespace OAuthRedirect.Log

open Text (OneLine oneLine_append_iff)

/-! ### Texts around the data -/

theorem oneLine_colour (name : String) : OneLine (colour name) := by
  have hcolours : ∀ entry ∈ colours, OneLine entry.2 := by decide
  rw [colour]
  cases hfound : colours.lookup name with
  | none => decide
  | some found =>
    obtain ⟨before, after, happend, -⟩ := List.lookup_eq_some_iff.mp hfound
    exact hcolours (name, found) (by simp [happend])

theorem oneLine_zeroPadded (width n : Nat) : OneLine (zeroPadded width n) := by
  refine Text.oneLine_ofList_of_isDigit fun c hc => ?_
  obtain hc | hc := List.mem_append.mp hc
  · rw [(List.mem_replicate.mp hc).2]
    decide
  · exact Nat.isDigit_of_mem_toDigits (by decide) (by decide) hc

theorem Timestamp.oneLine_text (t : Timestamp) : OneLine t.text := by
  have hpunctuation : ∀ mark ∈ ["-", " ", ":", "."], OneLine mark := by decide
  simp only [List.forall_mem_cons] at hpunctuation
  obtain ⟨hdash, hspace, hcolon, hpoint, -⟩ := hpunctuation
  simp only [Timestamp.text, oneLine_append_iff, oneLine_zeroPadded, Text.oneLine_toString, hdash,
    hspace, hcolon, hpoint, and_self]

theorem Event.oneLine_kindColour (e : Event) : OneLine e.kindColour := by
  unfold kindColour
  split
  · exact oneLine_colour _
  · split
    · exact oneLine_colour _
    · exact oneLine_colour _

/-! ### Sanitised values -/

theorem oneLine_shorten {s : String} (h : OneLine s) : OneLine (shorten s) := by
  rw [shorten]
  split
  · rw [oneLine_append_iff]
    refine ⟨fun hline => h ?_, by decide⟩
    rw [String.toList_ofList] at hline
    exact List.mem_of_mem_take hline
  · exact h

theorem oneLine_shown_shortenBroken {codes : List Nat} (h : (Json.broken codes).shown.OneLine) :
    (shortenBroken codes).shown.OneLine := by
  rw [shortenBroken]
  split
  · have hmark : WideString.lineFeed ∉ "...".toList.map Char.toNat := by decide
    rw [Json.shown, WideString.oneLine_ofCodes_iff] at h
    rw [WideString.shown_ofCodes, WideString.oneLine_ofCodes_iff, List.mem_append, not_or]
    exact ⟨fun hline => h (List.mem_of_mem_take hline), hmark⟩
  · exact h

/-- A value on one line is on one line after it is sanitised. -/
theorem oneLine_shown_sanitizeValue (name : String) {value : Json} (h : value.shown.OneLine) :
    (sanitizeValue name value).shown.OneLine := by
  unfold sanitizeValue
  split
  · decide
  · split
    · cases value with
      | str s =>
        exact WideString.oneLine_text_iff.mpr (oneLine_shorten (WideString.oneLine_text_iff.mp h))
      | broken codes => exact oneLine_shown_shortenBroken h
      | _ => exact h
    · exact h

/-- A name that says nothing of a secret or a one-time value. -/
def IsPlainName (name : String) : Prop :=
  mentions secretWords name = false ∧ mentions oneTimeWords name = false

instance (name : String) : Decidable (IsPlainName name) :=
  inferInstanceAs
    (Decidable (mentions secretWords name = false ∧ mentions oneTimeWords name = false))

theorem IsPlainName.sanitizeValue_eq {name : String} (h : IsPlainName name) (value : Json) :
    sanitizeValue name value = value := by
  simp [sanitizeValue, h.1, h.2]

/-! ### Blocks -/

namespace Event

/-- Everything that an event shows is **on one line**. -/
structure OneLineEach (e : Event) : Prop where
  source : OneLine e.source
  destination : OneLine e.destination
  kind : OneLine e.kind
  data : ∀ entry ∈ sanitize e.data, OneLine entry.1 ∧ entry.2.shown.OneLine

variable {e : Event} {now : Timestamp}

theorem oneLine_header_iff :
    OneLine (e.header now) ↔ OneLine e.source ∧ OneLine e.destination := by
  have hmarks : OneLine "[" ∧ OneLine "] " ∧ OneLine " → " ∧ OneLine reset := by decide
  simp only [header, partyColour, oneLine_append_iff, oneLine_colour, Timestamp.oneLine_text,
    hmarks, true_and, and_true]

theorem oneLine_entryLine_iff {entry : String × Json} :
    (entryLine entry).OneLine ↔ OneLine entry.1 ∧ entry.2.shown.OneLine := by
  have hmarks : OneLine "  " ∧ OneLine ":" ∧ OneLine " " ∧ OneLine reset := by decide
  simp only [entryLine, WideString.oneLine_append_iff, WideString.oneLine_text_iff,
    oneLine_append_iff, oneLine_colour, hmarks, true_and, and_true]

theorem length_lines (now : Timestamp) : (e.lines now).length = e.data.length + 3 := by
  simp [lines, sanitize]

/-- **The lines of a block.** They are three more than the entries of the data exactly when
everything that is shown is on one line. -/
theorem lineCount_render_iff :
    (e.render now).lineCount = e.data.length + 3 ↔ e.OneLineEach := by
  have hkind : OneLine e.kindLine ↔ OneLine e.kind := by
    have hmarks : OneLine ":" ∧ OneLine reset := by decide
    simp only [kindLine, oneLine_append_iff, oneLine_kindColour, hmarks, true_and, and_true]
  have hseparator : OneLine separator := by decide
  have hlines : (∀ line ∈ e.lines now, line.OneLine) ↔ e.OneLineEach := by
    simp only [lines, List.cons_append, List.forall_mem_cons, List.forall_mem_append,
      List.forall_mem_map, WideString.oneLine_text_iff, oneLine_header_iff, hkind,
      oneLine_entryLine_iff, hseparator, List.not_mem_nil, false_imp_iff, implies_true, and_true]
    constructor
    · rintro ⟨⟨hsource, hdestination⟩, hkind, hdata⟩
      exact ⟨hsource, hdestination, hkind, hdata⟩
    · intro h
      exact ⟨⟨h.source, h.destination⟩, h.kind, h.data⟩
  rw [← length_lines now, render, WideString.lineCount_join_iff (by simp [lines]), hlines]

/-- What is on one line before it is sanitised is on one line as it is shown. -/
theorem OneLineEach.of_data (hsource : OneLine e.source) (hdestination : OneLine e.destination)
    (hkind : OneLine e.kind)
    (hdata : ∀ entry ∈ e.data, OneLine entry.1 ∧ entry.2.shown.OneLine) : e.OneLineEach where
  source := hsource
  destination := hdestination
  kind := hkind
  data := List.forall_mem_map.mpr fun entry hentry =>
    (hdata entry hentry).imp_right (oneLine_shown_sanitizeValue entry.1)

/-- Between parties on one line, and with names on one line that are plain wherever a value could
break, an event is on one line each when its values are. -/
theorem oneLineEach_iff (hsource : OneLine e.source) (hdestination : OneLine e.destination)
    (hkind : OneLine e.kind) (hnames : ∀ entry ∈ e.data, OneLine entry.1)
    (hplain : ∀ entry ∈ e.data, IsPlainName entry.1 ∨ entry.2.shown.OneLine) :
    e.OneLineEach ↔ ∀ entry ∈ e.data, entry.2.shown.OneLine := by
  have hdata : (∀ entry ∈ sanitize e.data, OneLine entry.1 ∧ entry.2.shown.OneLine) ↔
      ∀ entry ∈ e.data, entry.2.shown.OneLine := by
    rw [sanitize, List.forall_mem_map]
    refine forall₂_congr fun entry hentry => ?_
    obtain hname | hvalue := hplain entry hentry
    · rw [hname.sanitizeValue_eq, and_iff_right (hnames entry hentry)]
    · exact iff_of_true ⟨hnames entry hentry, oneLine_shown_sanitizeValue entry.1 hvalue⟩ hvalue
  rw [← hdata]
  exact ⟨OneLineEach.data, fun h => ⟨hsource, hdestination, hkind, h⟩⟩

end Event

end OAuthRedirect.Log
