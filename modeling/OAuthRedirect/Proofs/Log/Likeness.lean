import OAuthRedirect.Log.Logger

/-!
# What the log does not tell apart

Of a long text under the name of a one-time value the log shows the first ten characters. Two
such texts with the same front look alike (`Log.LooksLike`), and so do two events that differ in
nothing but such texts (`Log.Event.LooksLike`): whatever logger and clock, the same records are
written for both (`Log.Event.LooksLike.eventRecords_eq`).
-/

namespace OAuthRedirect.Log

/-- Long texts with the same front: as one-time values they are logged alike. -/
structure LooksLike (s t : String) : Prop where
  long : shownLength < s.toList.length
  long' : shownLength < t.toList.length
  front : s.toList.take shownLength = t.toList.take shownLength

theorem LooksLike.shorten_eq {s t : String} (h : LooksLike s t) : shorten s = shorten t := by
  rw [shorten, shorten, if_pos h.long, if_pos h.long', h.front]

theorem LooksLike.sanitizeValue_eq {s t : String} (h : LooksLike s t) {name : String}
    (hname : mentions oneTimeWords name = true) :
    sanitizeValue name (.str s) = sanitizeValue name (.str t) := by
  simp only [sanitizeValue, hname, if_true, h.shorten_eq]

/-! ### Single events -/

/-- Events that are logged alike. -/
structure Event.LooksLike (e e' : Event) : Prop where
  source : e.source = e'.source
  destination : e.destination = e'.destination
  kind : e.kind = e'.kind
  data : sanitize e.data = sanitize e'.data
  success : e.success = e'.success

namespace Event.LooksLike

theorem refl (e : Event) : e.LooksLike e :=
  ⟨rfl, rfl, rfl, rfl, rfl⟩

variable {e e' : Event} (h : e.LooksLike e')

include h

theorem lines_eq (now : Timestamp) : e.lines now = e'.lines now := by
  simp only [lines, header, kindLine, kindColour, h.source, h.destination, h.kind, h.data,
    h.success]

/-- **Events that look alike leave the same records.** -/
theorem eventRecords_eq (logger : Logger) (now : Timestamp) :
    logger.eventRecords now e = logger.eventRecords now e' := by
  rw [Logger.eventRecords, Logger.eventRecords, render, render, h.lines_eq, level, level,
    h.success]

end Event.LooksLike

/-! ### Runs of events -/

/-- Logs that the same records are left of, whatever the logger and the clock. -/
def SameRecords (log log' : List Event) : Prop :=
  ∀ (logger : Logger) (now : Timestamp),
    log.flatMap (logger.eventRecords now) = log'.flatMap (logger.eventRecords now)

theorem SameRecords.refl (log : List Event) : SameRecords log log := fun _ _ => rfl

theorem SameRecords.append {log log' : List Event} (h : SameRecords log log') {e e' : Event}
    (he : e.LooksLike e') : SameRecords (log ++ [e]) (log' ++ [e']) := by
  intro logger now
  rw [List.flatMap_append, List.flatMap_append, h logger now, List.flatMap_singleton,
    List.flatMap_singleton, he.eventRecords_eq]

end OAuthRedirect.Log
