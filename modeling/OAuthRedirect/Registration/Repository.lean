import OAuthRedirect.Registration.Basic

/-!
# Repositories

A repository is a non-empty list of registrations with distinct ids, and looks them up by id.
`Repository.ofList` takes a list as it is or names the first id that repeats an earlier one.
-/

namespace OAuthRedirect

/-- Why some registrations form no repository. -/
inductive RepositoryError where
  | duplicate (id : String)
  | empty
  deriving DecidableEq, Repr

/-- What an error says. -/
def RepositoryError.message : RepositoryError → String
  | duplicate id => "Duplicate key " ++ id
  | empty => "registrations cannot be empty"

/-- Why a look-up has no answer. -/
inductive LookupError where
  /-- The id to look up is empty or missing. -/
  | emptyId
  /-- The place where registrations are kept failed. -/
  | failed (reason : String)
  deriving DecidableEq, Repr

/-- What an error says. -/
def LookupError.message : LookupError → String
  | emptyId => "registration_id cannot be empty"
  | failed reason => reason

/-- Registrations with distinct ids. -/
structure Repository (τ : Type := String) [Inhabited τ] [LT τ] where
  registrations : List (Registration τ)
  distinct : (registrations.map (·.id)).Nodup
  ne_nil : registrations ≠ []

namespace Repository

/-- Registrations with distinct ids, some of them maybe still to come. -/
structure Builder (τ : Type := String) [Inhabited τ] [LT τ] where
  registrations : List (Registration τ)
  distinct : (registrations.map (·.id)).Nodup

variable {τ : Type} [Inhabited τ] [LT τ]

namespace Builder

/-- Before the first registration. -/
def start : Builder τ := ⟨[], .nil⟩

/-- Adds a registration, whose id has to be new. -/
def add (b : Builder τ) (r : Registration τ) : Except RepositoryError (Builder τ) :=
  if h : r.id ∈ b.registrations.map (·.id) then .error (.duplicate r.id)
  else
    .ok ⟨b.registrations ++ [r], by
      rw [List.map_append, List.nodup_append]
      refine ⟨b.distinct, by simp, ?_⟩
      intro x hx y hy hxy
      simp only [List.map_cons, List.map_nil, List.mem_singleton] at hy
      subst hxy hy
      exact h hx⟩

/-- The repository of the registrations added. -/
def finish (b : Builder τ) : Except RepositoryError (Repository τ) :=
  if h : b.registrations = [] then .error .empty
  else .ok ⟨b.registrations, b.distinct, h⟩

end Builder

/-- The repository of a list of registrations. -/
def ofList (registrations : List (Registration τ)) :
    Except RepositoryError (Repository τ) := do
  (← registrations.foldlM Builder.add .start).finish

/-- The registration with an id. -/
def find? (repository : Repository τ) (id : String) : Option (Registration τ) :=
  repository.registrations.find? (·.id == id)

/-- Looks an id up, which has to be given and not to be empty. -/
def lookup (repository : Repository τ) :
    Option String → Except LookupError (Option (Registration τ))
  | none | some "" => .error .emptyId
  | some id => .ok (repository.find? id)

/-- How many registrations there are. -/
def size (repository : Repository τ) : Nat :=
  repository.registrations.length

/-- The ids, in the order of the registrations. -/
def ids (repository : Repository τ) : List String :=
  repository.registrations.map (·.id)

/-! ### Repositories of texts -/

/-- A repository of registrations of texts as one of registrations of wide strings. -/
@[coe] def widen (repository : Repository) : Repository WideString where
  registrations := repository.registrations.map Registration.widen
  distinct := by
    rw [List.map_map]
    exact repository.distinct
  ne_nil h := repository.ne_nil (List.map_eq_nil_iff.1 h)

instance : Coe Repository (Repository WideString) := ⟨widen⟩

/-! ### Data -/

/-- Why some data describes no repository. -/
inductive DataError where
  | invalid (faults : List Fault)
  | rejected (e : RepositoryError)

/-- The repository that a list of data describes. The data is checked one by one, so that a
repeated id comes before the faults of data after it. -/
def ofData (data : List Json) : Except DataError (Repository WideString) := do
  let addData (b : Builder WideString) (item : Json) : Except DataError (Builder WideString) := do
    let r ← (Registration.ofJson item).toExcept.mapError .invalid
    (b.add r).mapError .rejected
  (← data.foldlM addData .start).finish.mapError .rejected

end Repository

end OAuthRedirect
