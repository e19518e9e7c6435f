import Mathlib.Logic.Function.Basic

/-!
# Methods and method routers

`method_to_filter` (`src/main.rs`) maps the HTTP method of a Ruma endpoint's metadata to the
axum `MethodFilter` its routes are registered under, and panics on a method without one. An
axum `MethodRouter` routes each filter to at most one handler: merging two of them panics when
both route one filter, and a `HEAD` request without a route of its own goes to the `GET` one.
-/

set_option autoImplicit false

namespace MatrixServer.Routing

/-- `http::Method`: the nine standard methods and the extension methods. -/
inductive Method
  | options | get | post | put | delete | head | trace | connect | patch
  | extension (name : String)
  deriving DecidableEq, Repr

/-- The flags of `axum::routing::MethodFilter`. -/
inductive MethodFilter
  | delete | get | head | options | patch | post | put | trace
  deriving DecidableEq, Repr

/-- The method a flag admits. -/
def MethodFilter.method : MethodFilter → Method
  | .delete => .delete
  | .get => .get
  | .head => .head
  | .options => .options
  | .patch => .patch
  | .post => .post
  | .put => .put
  | .trace => .trace

/-- Every flag, in the order `MethodRouter::merge` visits them. -/
def MethodFilter.all : List MethodFilter := [.get, .head, .delete, .options, .patch, .post, .put, .trace]

theorem MethodFilter.mem_all (filter : MethodFilter) : filter ∈ MethodFilter.all := by
  cases filter <;> simp [MethodFilter.all]

theorem MethodFilter.method_injective : Function.Injective MethodFilter.method := by
  intro first second same
  cases first <;> cases second <;> first | rfl | cases same

/-- Why building the route table panics: `method_to_filter`'s "Unsupported HTTP method: {m:?}";
axum's "Overlapping method route" when two method routers both route one flag; and
`Router::route`'s "Paths must start with a `/`. Use \"/\" for root routes" for an empty path,
"Paths must start with a `/`" for a path without one, and "Invalid route: {err}" when matchit
refuses to insert the path, with matchit's own error. -/
inductive Panic
  | unsupportedMethod (method : Method)
  | overlappingMethodRoute (filter : MethodFilter)
  | emptyPath
  | missingLeadingSlash
  | invalidRoute (path : String)
  deriving DecidableEq, Repr

/-- `method_to_filter`. -/
def methodToFilter : Method → Except Panic MethodFilter
  | .delete => .ok .delete
  | .get => .ok .get
  | .head => .ok .head
  | .options => .ok .options
  | .patch => .ok .patch
  | .post => .ok .post
  | .put => .ok .put
  | .trace => .ok .trace
  | method => .error (.unsupportedMethod method)

theorem methodToFilter_eq_ok {method : Method} {filter : MethodFilter}
    (accepted : methodToFilter method = .ok filter) : filter.method = method := by
  cases method <;> cases accepted <;> rfl

theorem methodToFilter_method (filter : MethodFilter) : methodToFilter filter.method = .ok filter := by
  cases filter <;> rfl

/-- An axum `MethodRouter`: the handler each flag routes to, if any. -/
structure MethodRouter (H : Type) where
  handler : MethodFilter → Option H

namespace MethodRouter

variable {H : Type}

/-- `on(filter, handler)`, for a single flag (`on` is a keyword here). -/
def onFilter (filter : MethodFilter) (handler : H) : MethodRouter H :=
  ⟨fun routed => if routed = filter then some handler else none⟩

/-- `get(handler)`. -/
def get (handler : H) : MethodRouter H := onFilter .get handler

/-- `MethodRouter::merge`: the routes of both, and a panic at the first flag both route. -/
def merge (first second : MethodRouter H) : Except Panic (MethodRouter H) :=
  match MethodFilter.all.find? fun filter => (first.handler filter).isSome && (second.handler filter).isSome with
  | some filter => .error (.overlappingMethodRoute filter)
  | none => .ok ⟨fun filter => (first.handler filter).or (second.handler filter)⟩

/-- `.put(handler)` on a method router: `on(MethodFilter::PUT, handler)` added to it, which
panics like a merge when `PUT` is routed already. -/
def put (router : MethodRouter H) (handler : H) : Except Panic (MethodRouter H) :=
  router.merge (onFilter .put handler)

/-- The handler a request's method reaches: `HEAD` goes to `GET` when it has no route of its
own; `CONNECT` and the extension methods reach none. -/
def select (router : MethodRouter H) : Method → Option H
  | .head => (router.handler .head).or (router.handler .get)
  | .get => router.handler .get
  | .post => router.handler .post
  | .options => router.handler .options
  | .patch => router.handler .patch
  | .put => router.handler .put
  | .delete => router.handler .delete
  | .trace => router.handler .trace
  | .connect => none
  | .extension _ => none

@[simp] theorem onFilter_handler (filter routed : MethodFilter) (handler : H) :
    (onFilter filter handler).handler routed = if routed = filter then some handler else none := rfl

theorem select_method {router : MethodRouter H} {filter : MethodFilter} {handler : H}
    (routed : router.handler filter = some handler) : router.select filter.method = some handler := by
  cases filter <;> simp [select, MethodFilter.method, routed]

theorem select_eq_some {router : MethodRouter H} {method : Method} {handler : H}
    (selected : router.select method = some handler) :
    ∃ filter, router.handler filter = some handler ∧
      (filter.method = method ∨ method = .head ∧ filter = .get) := by
  cases method <;> simp only [select, reduceCtorEq] at selected
  case head =>
    rcases Option.or_eq_some.mp selected with head | ⟨-, get⟩
    · exact ⟨.head, head, .inl rfl⟩
    · exact ⟨.get, get, .inr ⟨rfl, rfl⟩⟩
  all_goals exact ⟨_, selected, .inl rfl⟩

theorem merge_eq_ok {first second merged : MethodRouter H} (accepted : first.merge second = .ok merged) :
    (∀ filter, first.handler filter = none ∨ second.handler filter = none) ∧
      ∀ filter, merged.handler filter = (first.handler filter).or (second.handler filter) := by
  unfold merge at accepted
  split at accepted
  · cases accepted
  · rename_i disjoint
    cases accepted
    refine ⟨fun filter => ?_, fun _ => rfl⟩
    have apart := List.find?_eq_none.mp disjoint filter (MethodFilter.mem_all filter)
    cases routed : first.handler filter
    · exact .inl rfl
    · exact .inr (by simpa [routed] using apart)

/-- A merge succeeds exactly when no flag is routed by both. -/
theorem merge_isOk_iff (first second : MethodRouter H) :
    (∃ merged, first.merge second = .ok merged) ↔
      ∀ filter, first.handler filter = none ∨ second.handler filter = none := by
  refine ⟨fun ⟨_, accepted⟩ => (merge_eq_ok accepted).1, fun disjoint => ?_⟩
  unfold merge
  split
  · rename_i filter found
    have both := List.find?_some found
    rcases disjoint filter with none | none <;> simp [none] at both
  · exact ⟨_, rfl⟩

end MethodRouter

end MatrixServer.Routing
