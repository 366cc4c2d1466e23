import AccountSecurity.Http.Router
import Mathlib.Data.List.Nodup

/-!
# Where requests go

* `PathTemplate.accepts_chars` : a template without parameters accepts its own path;
* `Router.endpoint?` : the endpoint that answers a request;
* `Router.endpoint?_eq_route` : under a path without braces, a route answers the requests to its own path with the
  method of all routes, and no others.
-/

namespace AccountSecurity

/-! ## Templates without parameters -/

namespace PathTemplate
variable {s t : List Char}

/-- The text has no opening brace. -/
def IsPlain (s : List Char) : Prop := ∀ c ∈ s, c ≠ '\x7b'

-- over the list, and not over all characters
instance : Decidable (IsPlain s) := List.decidableBAll (· ≠ '\x7b') s

theorem readPieces_plain (hs : IsPlain s) : readPieces 0 s = some (s.map .char) := by
  induction s with
  | nil => rfl
  | cons c s ih =>
    obtain ⟨hc, hs⟩ := List.forall_mem_cons.1 hs
    rw [readPieces, if_neg hc]
    simp [ih hs]

theorem bracedTexts_plain (hs : IsPlain s) : bracedTexts 0 s = [] := by
  induction s with
  | nil => rfl
  | cons c s ih =>
    obtain ⟨hc, hs⟩ := List.forall_mem_cons.1 hs
    rw [bracedTexts, if_neg fun h => hc h.1, ih hs]

theorem names_chars (s : List Char) : names (s.map .char) = [] := by
  rw [names, List.filterMap_map]
  exact List.filterMap_eq_nil_iff.2 fun _ _ => rfl

theorem format_chars (s : List Char) : format (s.map .char) = s := by
  rw [format, List.flatMap_map]
  exact List.flatMap_singleton' s

theorem read_plain {path : String} (hs : IsPlain path.toList) : read path = .ok (path.toList.map .char) := by
  have hrepeated : repeatedNames (path.toList.map .char) = [] := by
    rw [repeatedNames, names_chars]
    rfl
  unfold read
  rw [readPieces_plain hs]
  dsimp only
  rw [if_neg (not_not.2 hrepeated), format_chars, bracedTexts_plain hs, if_neg List.not_mem_nil]

/-- A path has the form of a template without parameters. A line break at its end is passed over. -/
def reads (s t : List Char) : Bool := t == s || t == s ++ ['\n']

theorem reads_iff : reads s t ↔ t = s ∨ t = s ++ ['\n'] := by simp [reads]

theorem matchPieces?_chars (s t : List Char) :
    matchPieces? (s.map .char) t = if reads s t then some [] else none := by
  induction s generalizing t with
  | nil => simp [matchPieces?, reads]
  | cons c s ih =>
    cases t with
    | nil => simp [matchPieces?, reads]
    | cons d t =>
      rw [List.map_cons, matchPieces?, ih]
      by_cases hc : c = d
      · subst hc
        simp [reads]
      · simp [reads, hc, Ne.symm hc]

theorem accepts_chars (s : List Char) (path : String) :
    accepts (s.map .char) path = .ok (reads s path.toList) := by
  unfold accepts
  rw [matchPieces?_chars]
  cases reads s path.toList <;> rfl

end PathTemplate

/-! ## Paths of the routes -/

namespace Route
open PathTemplate

theorem mem_all (route : Route) : route ∈ all := by cases route <;> decide

theorem nodup_paths : (all.map fun route => route.path.toList).Nodup := by decide +kernel

theorem isPlain_path (route : Route) : IsPlain route.path.toList := by
  have hall : ∀ route ∈ all, IsPlain route.path.toList := by decide +kernel
  exact hall route (mem_all route)

theorem ne_break_path (route : Route) : ∀ c ∈ route.path.toList, (c != '\n') = true := by
  have hall : ∀ route ∈ all, route.path.toList.all (· != '\n') := by decide +kernel
  exact List.all_eq_true.1 (hall route (mem_all route))

/-- The paths of two routes are different, also with line breaks at their ends. -/
theorem eq_of_reads {base t : List Char} {a b : Route} (ha : reads (base ++ a.path.toList) t)
    (hb : reads (base ++ b.path.toList) t) : a = b := by
  have hpath {c : Route} (hc : reads (base ++ c.path.toList) t) :
      (t.drop base.length).filter (· != '\n') = c.path.toList := by
    have hkept := List.filter_eq_self.2 (ne_break_path c)
    obtain rfl | rfl := reads_iff.1 hc
    · rw [List.drop_left, hkept]
    · rw [List.append_assoc, List.drop_left, List.filter_append, hkept]
      simp
  exact List.inj_on_of_nodup_map nodup_paths (mem_all a) (mem_all b) ((hpath ha).symm.trans (hpath hb))

end Route

/-! ## The endpoint of a request -/

namespace Router
open PathTemplate
variable {r : Router} {setup : Setup} {base : String} {withSms : Bool} {request : Request} {route : Route}

/-- The endpoint that answers a request: the first at its path that takes its method. -/
def endpoint? (r : Router) (request : Request) : Option Endpoint :=
  match r.endpointsAt request.path with
  | .ok found => found.find? fun e => request.method ∈ e.methods
  | .error _ => none

/-- The routes that are served. -/
def served (withSms : Bool) : List Route := Route.all.filter fun route => withSms || !route.isSms

theorem mem_served : route ∈ served withSms ↔ (withSms ∨ route.isSms = false) := by
  simp [served, Route.mem_all]

/-- A router comes from codes that requests can submit, and has the templates of its routes. -/
theorem of_eq_ok (h : Router.of setup base withSms = .ok r) :
    (∀ l ∈ codeLengths setup withSms, l.2 = (requestCodeDigits : Int)) ∧ under base (served withSms) = .ok r := by
  unfold of at h
  split at h
  · cases h
  · next hnone =>
    refine ⟨fun l hl => by simpa using List.find?_eq_none.1 hnone l hl, ?_⟩
    unfold served
    cases hu : under base (Route.all.filter fun route => withSms || !route.isSms) with
    | error f =>
      rw [hu] at h
      cases h
    | ok r' =>
      rw [hu] at h
      cases h
      rfl

/-- The template of a route under a path without braces. -/
def plainTemplate (base : String) (route : Route) : PathTemplate := (base.toList ++ route.path.toList).map .char

theorem under_plain (hb : IsPlain base.toList) (hbase : isBase base) (routes : List Route) :
    under base routes = .ok ⟨routes.map fun route => (route, plainTemplate base route)⟩ := by
  have hread (route : Route) : (route, ·) <$> PathTemplate.read (base ++ route.path) =
      (pure (route, plainTemplate base route) : Except Fault _) := by
    have hplain : IsPlain (base ++ route.path).toList := by
      rw [String.toList_append]
      exact List.forall_mem_append.2 ⟨hb, route.isPlain_path⟩
    rw [read_plain hplain, String.toList_append]
    rfl
  unfold under
  rw [if_pos hbase]
  simp only [hread, List.mapM_pure]
  rfl

theorem routes_of_plain (hb : IsPlain base.toList) (h : Router.of setup base withSms = .ok r) :
    r.routes = (served withSms).map fun route => (route, plainTemplate base route) := by
  obtain ⟨-, hu⟩ := of_eq_ok h
  by_cases hbase : isBase base
  · rw [under_plain hb hbase] at hu
    cases hu
    rfl
  · rw [under, if_neg hbase] at hu
    cases hu

/-- There is a router under every path without braces, for codes that requests can submit. -/
theorem exists_of_plain (hl : ∀ l ∈ codeLengths setup withSms, l.2 = (requestCodeDigits : Int))
    (hb : IsPlain base.toList) (hbase : isBase base) : ∃ r, Router.of setup base withSms = .ok r := by
  unfold of
  rw [List.find?_eq_none.2 fun l hm => by simpa using hl l hm]
  dsimp only
  rw [under_plain hb hbase]
  exact ⟨_, rfl⟩

/-- A filter by a check that never fails. -/
theorem filterM_of_ok {α : Type} {p : α → Except Fault Bool} {f : α → Bool} {xs : List α}
    (h : ∀ a ∈ xs, p a = .ok (f a)) : xs.filterM p = .ok (xs.filter f) := by
  have haux : ∀ acc, xs.filterAuxM p acc = .ok ((xs.filter f).reverse ++ acc) := by
    induction xs with
    | nil => exact fun acc => rfl
    | cons a xs ih =>
      intro acc
      obtain ⟨ha, hrest⟩ := List.forall_mem_cons.1 h
      rw [List.filterAuxM, ha]
      show xs.filterAuxM p (cond (f a) (a :: acc) acc) = _
      rw [ih hrest]
      cases hf : f a <;> simp [hf]
  unfold List.filterM
  rw [haux, List.append_nil]
  simp [bind, Except.bind, pure, Except.pure]

/-- The endpoints of a router under a path without braces: pages, and routes at their paths. -/
theorem endpoint_of_mem (hb : IsPlain base.toList) (h : Router.of setup base withSms = .ok r)
    {e : Endpoint × PathTemplate} (he : e ∈ r.endpoints) :
    (∃ s : List Char, e = (.page, s.map .char)) ∨
      ∃ route ∈ served withSms, e = (.route route, plainTemplate base route) := by
  unfold endpoints at he
  rw [routes_of_plain hb h] at he
  obtain he | he := List.mem_append.1 he
  · obtain ⟨path, -, rfl⟩ := List.mem_map.1 he
    exact .inl ⟨_, rfl⟩
  · simp only [List.map_map, List.mem_map, Function.comp_apply] at he
    obtain ⟨route, hroute, rfl⟩ := he
    exact .inr ⟨route, hroute, rfl⟩

/-- The endpoint of a request under a path without braces, as the first of a list. -/
theorem endpoint?_of_plain (hb : IsPlain base.toList) (h : Router.of setup base withSms = .ok r) (request : Request) :
    r.endpoint? request = (r.endpoints.find? fun e =>
      reads (format e.2) request.path.toList && decide (request.method ∈ e.1.methods)).map Prod.fst := by
  have haccepts : ∀ e ∈ r.endpoints, e.2.accepts request.path = .ok (reads (format e.2) request.path.toList) := by
    intro e he
    obtain ⟨s, rfl⟩ | ⟨route, -, rfl⟩ := endpoint_of_mem hb h he
    · rw [accepts_chars, format_chars]
    · rw [plainTemplate, accepts_chars, format_chars]
  have hfound : r.endpointsAt request.path =
      .ok ((r.endpoints.filter fun e => reads (format e.2) request.path.toList).map Prod.fst) := by
    unfold endpointsAt
    rw [filterM_of_ok haccepts]
    rfl
  unfold endpoint?
  rw [hfound]
  dsimp only
  rw [List.find?_map, List.find?_filter]
  simp

/-- **A route answers** the requests to its own path, with the method of all routes, and no others. -/
theorem endpoint?_eq_route (hb : IsPlain base.toList) (h : Router.of setup base withSms = .ok r) :
    r.endpoint? request = some (.route route) ↔
      (withSms ∨ route.isSms = false) ∧ request.method = "POST" ∧
        (request.path = base ++ route.path ∨ request.path = base ++ route.path ++ "\n") := by
  have hpath (route : Route) : reads (format (plainTemplate base route)) request.path.toList ↔
      request.path = base ++ route.path ∨ request.path = base ++ route.path ++ "\n" := by
    rw [plainTemplate, format_chars, reads_iff, ← String.toList_append,
      show (['\n'] : List Char) = "\n".toList from rfl, ← String.toList_append, String.toList_inj, String.toList_inj]
  rw [endpoint?_of_plain hb h, ← mem_served, ← hpath]
  constructor
  · intro hfound
    obtain ⟨e, he, heq⟩ := Option.map_eq_some_iff.1 hfound
    have hserves := List.find?_some he
    rw [Bool.and_eq_true, decide_eq_true_eq] at hserves
    obtain ⟨s, rfl⟩ | ⟨route', hroute, rfl⟩ := endpoint_of_mem hb h (List.mem_of_find?_eq_some he)
    · cases heq
    · cases heq
      exact ⟨hroute, List.mem_singleton.1 hserves.2, hserves.1⟩
  · rintro ⟨hroute, hmethod, hreads⟩
    have hmem : (Endpoint.route route, plainTemplate base route) ∈ r.endpoints := by
      unfold endpoints
      rw [routes_of_plain hb h, List.map_map]
      exact List.mem_append_right _ (List.mem_map.2 ⟨route, hroute, rfl⟩)
    have hserves : (reads (format (plainTemplate base route)) request.path.toList &&
        decide (request.method ∈ (Endpoint.route route).methods)) = true := by
      rw [Bool.and_eq_true, decide_eq_true_eq]
      exact ⟨hreads, List.mem_singleton.2 hmethod⟩
    obtain ⟨e, he⟩ : ∃ e, (r.endpoints.find? fun e =>
        reads (format e.2) request.path.toList && decide (request.method ∈ e.1.methods)) = some e :=
      Option.isSome_iff_exists.1 (List.find?_isSome.2 ⟨_, hmem, hserves⟩)
    have hother := List.find?_some he
    rw [Bool.and_eq_true, decide_eq_true_eq] at hother
    rw [he]
    -- no page takes the method, and no other route has the path
    obtain ⟨s, rfl⟩ | ⟨route', -, rfl⟩ := endpoint_of_mem hb h (List.mem_of_find?_eq_some he)
    · rw [hmethod] at hother
      exact absurd (show "POST" ∈ Endpoint.page.methods from hother.2) (by decide)
    · rw [plainTemplate, format_chars] at hreads hother
      rw [Route.eq_of_reads hother.1 hreads, Option.map_some]

end Router

end AccountSecurity
