import OAuthRedirect.Application
import OAuthRedirect.Proofs.Text.AsciiCase

/-!
# Headers laid over a response

A header that is set stands once in a response, in the place of all headers of its name, and
leaves the headers of other names as they are, in their order. The security headers have different
names, so the same holds of all of them together, whatever response they are laid over
(`Response.secures_withHeaders`).
-/

namespace OAuthRedirect

namespace Response

/-- What is seen of some headers by their names. -/
def named (p : String → Bool) (headers : List (String × String)) : List (String × String) :=
  headers.filter fun header => p header.1

theorem named_cons (p : String → Bool) (header : String × String)
    (rest : List (String × String)) :
    named p (header :: rest) = if p header.1 then header :: named p rest else named p rest :=
  List.filter_cons

/-! ### One header -/

theorem named_setHeader_self (name value : String) (headers : List (String × String)) :
    named (· == name) (setHeader name value headers) = [(name, value)] := by
  induction headers with
  | nil => simp [setHeader, named]
  | cons header rest ih =>
    rw [setHeader]
    split
    · -- the later headers of the name were removed
      have hrest : named (· == name) (rest.filter fun other => other.1 != name) = [] := by
        simp [named, List.filter_filter]
      rw [named_cons, if_pos (by simp), hrest]
    · rename_i hname
      rw [named_cons, if_neg (by simpa using hname), ih]

theorem named_setHeader_of_not {p : String → Bool} {name : String} (h : p name = false)
    (value : String) (headers : List (String × String)) :
    named p (setHeader name value headers) = named p headers := by
  induction headers with
  | nil => simp [setHeader, named, h]
  | cons header rest ih =>
    rw [setHeader]
    split
    · rename_i hname
      have hrest : named p (rest.filter fun other => other.1 != name) = named p rest := by
        rw [named, named, List.filter_filter]
        refine List.filter_congr fun other _ => ?_
        cases hp : p other.1 with
        | false => rfl
        | true =>
          have hne : other.1 ≠ name := fun heq => by simp [← heq, hp] at h
          simp [hne]
      rw [named_cons, named_cons, if_neg (by simp [h]), if_neg (by simp [hname, h]), hrest]
    · rw [named_cons, named_cons, ih]

/-! ### Several headers -/

variable {additions : List (String × String)}

theorem named_withHeaders_of_not {p : String → Bool}
    (h : ∀ header ∈ additions, p header.1 = false) (r : Response) :
    named p (r.withHeaders additions).headers = named p r.headers := by
  induction additions generalizing r with
  | nil => rfl
  | cons header rest ih =>
    rw [List.forall_mem_cons] at h
    exact (ih h.2 { r with headers := setHeader header.1 header.2 r.headers }).trans
      (named_setHeader_of_not h.1 header.2 r.headers)

/-- Headers of different names are all there in the end. -/
theorem named_withHeaders_self (hnodup : (additions.map Prod.fst).Nodup) {header : String × String}
    (hmem : header ∈ additions) (r : Response) :
    named (· == header.1) (r.withHeaders additions).headers = [header] := by
  induction additions generalizing r with
  | nil => contradiction
  | cons first rest ih =>
    rw [List.map_cons, List.nodup_cons] at hnodup
    rcases List.mem_cons.mp hmem with rfl | hmem
    · have hother : ∀ other ∈ rest, (other.1 == header.1) = false := fun other hother => by
        have hne : other.1 ≠ header.1 := fun heq =>
          hnodup.1 (heq ▸ List.mem_map_of_mem hother)
        simpa using hne
      exact (named_withHeaders_of_not (p := (· == header.1)) hother
        { r with headers := setHeader header.1 header.2 r.headers }).trans
          (named_setHeader_self header.1 header.2 r.headers)
    · exact ih hnodup.2 hmem { r with headers := setHeader first.1 first.2 r.headers }

/-! ### The security headers -/

/-- The name of a security header. -/
def isSecurityName (name : String) : Bool :=
  (Application.sentSecurityHeaders.map Prod.fst).contains name

/-- A response that is another one with the security headers: each of them is there once and with
its value, and apart from them nothing is different. -/
structure Secures (base sent : Response) : Prop where
  status : sent.status = base.status
  body : sent.body = base.body
  once : ∀ header ∈ Application.sentSecurityHeaders,
    named (· == header.1) sent.headers = [header]
  others : named (!isSecurityName ·) sent.headers = named (!isSecurityName ·) base.headers

/-- Headers of other names are seen as they were. -/
theorem Secures.named_eq {base sent : Response} (h : Secures base sent) {p : String → Bool}
    (hp : ∀ name, p name = true → isSecurityName name = false) :
    named p sent.headers = named p base.headers := by
  have hother : ∀ headers, named p (named (!isSecurityName ·) headers) = named p headers :=
    fun headers => by
      rw [named, named, named, List.filter_filter]
      refine List.filter_congr fun header _ => ?_
      cases hname : p header.1 with
      | false => rfl
      | true => simp [hp _ hname]
  rw [← hother, h.others, hother]

/-- The names in lower case, as headers are sent, and the values. -/
theorem sentSecurityHeaders_eq : Application.sentSecurityHeaders =
    [("x-content-type-options", "nosniff"), ("x-frame-options", "DENY"),
      ("referrer-policy", "no-referrer"), ("cache-control", "no-cache, no-store, must-revalidate"),
      ("pragma", "no-cache"), ("expires", "0")] := by
  have hascii : (securityHeaders.all fun header => header.1.toList.all Text.isAscii) = true := by
    decide
  have hlower : Application.sentSecurityHeaders =
      securityHeaders.map fun header =>
        (String.ofList (header.1.toList.map Char.toLower), header.2) := by
    refine List.map_congr_left fun header hmem => ?_
    have hname := List.all_eq_true.mp (List.all_eq_true.mp hascii header hmem)
    rw [Text.lower_of_isAscii hname]
  rw [hlower]
  decide

/-- **The security headers can be laid over every response.** -/
theorem secures_withHeaders (base : Response) :
    Secures base (base.withHeaders Application.sentSecurityHeaders) where
  status := rfl
  body := rfl
  once header hmem := by
    have hnodup : (Application.sentSecurityHeaders.map Prod.fst).Nodup := by
      rw [sentSecurityHeaders_eq]
      decide
    exact named_withHeaders_self hnodup hmem base
  others := by
    refine named_withHeaders_of_not (fun header hmem => ?_) base
    rw [isSecurityName, List.contains_iff_mem.mpr (List.mem_map_of_mem hmem)]
    rfl

end Response

end OAuthRedirect
