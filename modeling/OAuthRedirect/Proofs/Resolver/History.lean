import OAuthRedirect.Proofs.Http.BaseUrl
import OAuthRedirect.Proofs.Resolver.Course

/-!
# Runs of a resolver

A run appends to the log and does not read it (`Resolver.run_frame`), so that calls have an effect
on later ones through the random bytes alone. Of the request it reads no more than the id, the
action and the base URL, the path in the log apart (`Resolver.exists_run_congr`).
`Resolver.history` lists the steps of a run of several calls, each with the session before and the
session after it.
-/

namespace OAuthRedirect.Resolver

variable {τ : Type} [Inhabited τ] [LT τ] [Strings τ]

/-! ### What the log has no part in -/

section Frame

variable {resolver : Resolver τ} {sha256 : Bool} {request : Request} {explicit : Option String}
  {entropy : Entropy}

omit [Strings τ] in
theorem keyed_frame (registration : Registration τ) (log : List Log.Event) :
    resolver.keyed sha256 registration ⟨entropy, log⟩ =
      ((resolver.keyed sha256 registration ⟨entropy, []⟩).1,
        ⟨(resolver.keyed sha256 registration ⟨entropy, []⟩).2.entropy,
          log ++ (resolver.keyed sha256 registration ⟨entropy, []⟩).2.log⟩) := by
  cases huses : registration.usesPkce with
  | true => rw [keyed_of_usesPkce huses, keyed_of_usesPkce huses, List.nil_append]
  | false => rw [keyed_of_not_usesPkce huses, keyed_of_not_usesPkce huses, List.append_nil]

/-- **A run appends to the log and does not read it.** -/
theorem run_frame (log : List Log.Event) :
    resolver.run sha256 request explicit ⟨entropy, log⟩ =
      ((resolver.run sha256 request explicit ⟨entropy, []⟩).1,
        ⟨(resolver.run sha256 request explicit ⟨entropy, []⟩).2.entropy,
          log ++ (resolver.run sha256 request explicit ⟨entropy, []⟩).2.log⟩) := by
  obtain ⟨_, _, hcourse⟩ := exists_course resolver sha256 request explicit ⟨entropy, []⟩
  have hrun := hcourse.run_eq
  -- the same course is open with any log
  cases hcourse with
  | passedBy hid =>
    rw [hrun, (Course.passedBy hid).run_eq, List.append_nil]
  | lookup hid hfind =>
    rw [hrun, (Course.lookup hid hfind).run_eq, List.append_nil]
  | unknownNoUrl hid hfind hurl =>
    rw [hrun, (Course.unknownNoUrl hid hfind hurl).run_eq, List.append_nil]
  | unknown hid hfind hurl =>
    rw [hrun, (Course.unknown hid hfind hurl).run_eq]
    rfl
  | unsupported hid hfind hgrant =>
    rw [hrun, (Course.unsupported hid hfind hgrant).run_eq]
    rfl
  | @noBaseUrl _ registration _ _ hid hfind hgrant hbase =>
    rw [hrun, (Course.noBaseUrl hid hfind hgrant hbase).run_eq, keyed_frame registration log]
  | @badTemplate _ _ registration _ _ hid hfind hgrant hbase hcallback =>
    rw [hrun, (Course.badTemplate hid hfind hgrant hbase hcallback).run_eq,
      keyed_frame registration log, Session.logged, Session.logged, List.append_assoc]
  | @invalid _ _ _ registration _ _ hid hfind hgrant hbase hcallback hendpoint =>
    rw [hrun, (Course.invalid hid hfind hgrant hbase hcallback hendpoint).run_eq,
      keyed_frame registration log]
  | @resolved _ _ _ registration _ _ _ hid hfind hgrant hbase hcallback hendpoint hresult =>
    rw [hrun, (Course.resolved hid hfind hgrant hbase hcallback hendpoint rfl).run_eq,
      keyed_frame registration log, hresult, List.append_assoc]

end Frame

/-! ### Two requests with one course -/

section Congruence

variable {resolver : Resolver τ} {first second : Request} {explicit explicit' : Option String}

/-- **Requests that ask for the same id in the same place** take the same course. Let two requests
ask for one id and have one base URL, or lack a URL and a base URL for the same reasons, and let
their actions make no difference to the redirect URI. Then they have the same outcome and use up the
same random bytes. Only the log tells them apart, for it may hold the path. -/
theorem exists_run_congr
    (hid : resolver.requestedId second explicit' = resolver.requestedId first explicit)
    (hurl : first.UrlsAlike second) (hbase : second.baseUrl = first.baseUrl)
    (hcallback : ∀ id registration, resolver.requestedId first explicit = some id →
      resolver.find id = .ok (some registration) → ∀ baseUrl,
        callback registration baseUrl (requestedAction second explicit') =
          callback registration baseUrl (requestedAction first explicit))
    (sha256 : Bool) (session : Session) :
    ∃ log, resolver.run sha256 second explicit' session =
      ((resolver.run sha256 first explicit session).1,
        ⟨(resolver.run sha256 first explicit session).2.entropy, log⟩) := by
  obtain ⟨_, _, hcourse⟩ := exists_course resolver sha256 first explicit session
  rw [hcourse.run_eq]
  -- each course of the first request is open to the second one
  cases hcourse with
  | passedBy hnone => exact ⟨_, (Course.passedBy (hid.trans hnone)).run_eq⟩
  | lookup hsome hfind => exact ⟨_, (Course.lookup (hid.trans hsome) hfind).run_eq⟩
  | unknownNoUrl hsome hfind hnone =>
    rcases hurl with ⟨e, hnone', hsecond⟩ | ⟨⟨url, hok⟩, -⟩
    · obtain rfl := Except.error.inj (hnone'.symm.trans hnone)
      exact ⟨_, (Course.unknownNoUrl (hid.trans hsome) hfind hsecond).run_eq⟩
    · rw [hok] at hnone
      contradiction
  | unknown hsome hfind hok =>
    rcases hurl with ⟨e, hnone, -⟩ | ⟨-, url, hsecond⟩
    · rw [hnone] at hok
      contradiction
    · exact ⟨_, (Course.unknown (hid.trans hsome) hfind hsecond).run_eq⟩
  | unsupported hsome hfind hgrant =>
    exact ⟨_, (Course.unsupported (hid.trans hsome) hfind hgrant).run_eq⟩
  | noBaseUrl hsome hfind hgrant hnone =>
    exact ⟨_, (Course.noBaseUrl (hid.trans hsome) hfind hgrant (hbase.trans hnone)).run_eq⟩
  | badTemplate hsome hfind hgrant hok herror =>
    exact ⟨_, (Course.badTemplate (hid.trans hsome) hfind hgrant (hbase.trans hok)
      ((hcallback _ _ hsome hfind _).trans herror)).run_eq⟩
  | invalid hsome hfind hgrant hok huri hendpoint =>
    exact ⟨_, (Course.invalid (hid.trans hsome) hfind hgrant (hbase.trans hok)
      ((hcallback _ _ hsome hfind _).trans huri) hendpoint).run_eq⟩
  | resolved hsome hfind hgrant hok huri hendpoint hresult =>
    exact ⟨_, (Course.resolved (hid.trans hsome) hfind hgrant (hbase.trans hok)
      ((hcallback _ _ hsome hfind _).trans huri) hendpoint hresult).run_eq⟩

end Congruence

/-! ### Steps -/

/-- A step of a run: a call with what becomes of it, and the sessions before and after it. -/
structure Step (τ : Type := String) [LT τ] where
  call : Call
  before : Session
  outcome : Except (Failure τ) (Option (AuthorizationRequest τ))
  after : Session

/-- The step of a call in some session. -/
def stepOf (resolver : Resolver τ) (call : Call) (session : Session) : Step τ :=
  let result := resolver.run call.sha256 call.request call.explicit session
  ⟨call, session, result.1, result.2⟩

/-- The steps of a run, each in the session that the step before it left. -/
def history (resolver : Resolver τ) : List Call → Session → List (Step τ)
  | [], _ => []
  | call :: rest, session =>
    let step := resolver.stepOf call session
    step :: history resolver rest step.after

theorem run_stepOf (resolver : Resolver τ) (call : Call) (session : Session) :
    resolver.run call.sha256 call.request call.explicit session =
      ((resolver.stepOf call session).outcome, (resolver.stepOf call session).after) := rfl

theorem runAll_eq (resolver : Resolver τ) (calls : List Call) (session : Session) :
    resolver.runAll calls session =
      (resolver.history calls session).map fun step => (step.outcome, step.after) := by
  induction calls generalizing session with
  | nil => rfl
  | cons call rest ih => rw [runAll, history, List.map_cons, ih, run_stepOf]

end OAuthRedirect.Resolver
