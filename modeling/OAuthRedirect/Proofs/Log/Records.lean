import OAuthRedirect.Log.Logger

/-!
# Records of a logger

A logger that is made with a level of its own has that level, and so has its handler, whatever
loggers were made before it. One with the level of `INFO` writes a record of every event
(`Log.exists_make_info`). What tells such records apart is their heading (`Log.Event.heading`).
-/

namespace OAuthRedirect.Log

/-! ### Headings -/

/-- What a record begins with, but for the time: its level, the two parties and the kind. -/
structure Heading where
  level : Level
  source : String
  destination : String
  kind : String
  deriving DecidableEq, Repr

/-- The heading of the record of an event. -/
def Event.heading (e : Event) : Heading :=
  ⟨e.level, e.source, e.destination, e.kind⟩

/-- What the record of an event shows under a name. -/
def Event.shown (e : Event) (name : String) : Option Json :=
  (sanitize e.data).lookup name

/-! ### Levels of a logger -/

theorem Hierarchy.lookup_set (hierarchy : Hierarchy) (name : String) (rank : Int) :
    (hierarchy.set name rank).lookup name = some rank := by
  induction hierarchy with
  | nil => simp [set]
  | cons entry rest ih =>
    rw [set]
    split
    · exact List.lookup_cons_self
    · rename_i hne
      have hother : (name == entry.1) = false := beq_false_of_ne (Ne.symm hne)
      rw [List.lookup_cons, hother]
      exact ih

/-- A level that is not zero counts for its logger. -/
theorem Hierarchy.effective_of_lookup {hierarchy : Hierarchy} {name : String} {rank : Int}
    (h : hierarchy.lookup name = some rank) (hne : rank ≠ 0) (fuel : Nat) :
    hierarchy.effective (fuel + 1) name = rank := by
  rw [effective, h]
  split
  · rename_i hzero
    exact absurd (Option.some_inj.mp hzero) hne
  · contradiction
  · rename_i hrank
    exact (Option.some_inj.mp hrank).symm

/-- A logger lets pass what its level and the level of its handler let pass, which are the same. -/
theorem exists_make (hierarchy : Hierarchy) (component : String) {rank : Int} (hne : rank ≠ 0) :
    ∃ logger later, hierarchy.make component (.rank rank) = .ok (logger, later) ∧
      ∀ level : Level, logger.admits level = decide (rank ≤ level.rank) := by
  refine ⟨_, _, rfl, fun level => ?_⟩
  rw [Logger.admits, Hierarchy.effective_of_lookup (Hierarchy.lookup_set ..) hne]
  simp

/-- **A logger with the level of `INFO` writes one record of every event**, with the level and the
block of the event. -/
theorem exists_make_info (hierarchy : Hierarchy) (component : String) :
    ∃ logger later, hierarchy.make component (.rank 20) = .ok (logger, later) ∧
      ∀ (now : Timestamp) (events : List Event),
        events.flatMap (logger.eventRecords now) =
          events.map fun e => ⟨e.level, e.render now⟩ := by
  obtain ⟨logger, later, hmake, hadmits⟩ :=
    exists_make hierarchy component (show (20 : Int) ≠ 0 by decide)
  refine ⟨logger, later, hmake, fun now events => ?_⟩
  have hrecords (e : Event) : logger.eventRecords now e = [⟨e.level, e.render now⟩] := by
    have hpass : logger.admits e.level = true := by
      rw [hadmits]
      cases e.level <;> decide
    rw [Logger.eventRecords, Logger.records, if_pos hpass]
  rw [List.map_eq_flatMap, funext hrecords]

end OAuthRedirect.Log
